import RunWatch.Text.Table
/-!
What characters are replaced by. The words of a table say it for many characters at once: `41-5A>61`
moves a range, `100-12E/2>101` moves every second character of a range, and `DF=73+73,E0` gives the
texts of successive characters.
-/
set_option autoImplicit false

namespace RunWatch.Text

inductive Replacement where
  /-- Every character at a distance of so many from the first one is moved with it. -/
  | shift (stride target : Nat)
  | each (texts : Array (List Char))

namespace Replacement

def codePoints? (cs : List Char) : Option (List Char) :=
  (splitOn (· == '+') cs).mapM fun w => (numberIn? 16 w).map Char.ofNat

def shift? (word : List Char) : Option (Row Replacement) :=
  match splitOn (· == '>') word with
  | [source, target] => do
    let target ← numberIn? 16 target
    match splitOn (· == '/') source with
    | [range] =>
      let (first, last) ← range? range
      some ⟨first, last, .shift 1 target⟩
    | [range, stride] =>
      let (first, last) ← range? range
      some ⟨first, last, .shift (← numberIn? 16 stride) target⟩
    | _ => none
  | _ => none

def each? (word : List Char) : Option (Row Replacement) := do
  let (first, texts) ← successive? word
  let texts ← texts.mapM codePoints?
  some ⟨first, first + (texts.length - 1), .each texts.toArray⟩

def ofLines (lines : List String) : Table Replacement :=
  .ofRows ((words lines).filterMap fun word => (shift? word).or (each? word))

def at? (r : Replacement) (distance : Nat) : Option (List Char) :=
  match r with
  | .shift stride target =>
    if distance % stride = 0 then some [Char.ofNat (target + distance)] else none
  | .each texts => texts[distance]?

/-- What replaces a character; none when it stays. -/
def text? (t : Table Replacement) (c : Char) : Option (List Char) :=
  (t.row? c.toNat).bind fun r => r.value.at? (c.toNat - r.first)

end Replacement

end RunWatch.Text
