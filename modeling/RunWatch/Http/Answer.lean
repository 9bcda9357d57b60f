import RunWatch.Envelope
import RunWatch.Text.Hex
set_option autoImplicit false

namespace RunWatch.Http

inductive Framing where
  | empty
  | length (n : Nat)
  | chunked
  | untilClose
  deriving DecidableEq, Repr

structure Head where
  status : Nat
  headers : List (String × String)
  deriving DecidableEq, Repr

inductive Progress where
  | more
  | done (r : Response)
  | broken
  | cutShort

def takeLine? : List UInt8 → Option (List UInt8 × List UInt8)
  | [] => none
  | 10 :: rest => some ([], rest)
  | 13 :: 10 :: rest => some ([], rest)
  | b :: rest => (takeLine? rest).map fun (line, rest) => (b :: line, rest)

theorem takeLine?_length {bytes line rest : List UInt8} (h : takeLine? bytes = some (line, rest)) :
    rest.length < bytes.length := by
  fun_induction takeLine? bytes generalizing line with
  | case1 => simp at h
  | case2 r =>
    simp only [Option.some.injEq, Prod.mk.injEq] at h
    simp [h.2]
  | case3 r =>
    simp only [Option.some.injEq, Prod.mk.injEq] at h
    simp only [← h.2, List.length_cons]
    omega
  | case4 b r _ _ ih =>
    obtain ⟨⟨l, t⟩, ht, he⟩ := Option.map_eq_some_iff.1 h
    simp only [Prod.mk.injEq] at he
    obtain ⟨-, rfl⟩ := he
    exact Nat.lt_succ_of_lt (ih ht)

def takeHead? (bytes : List UInt8) : Option (List (List UInt8) × List UInt8) :=
  match _h : takeLine? bytes with
  | none => none
  | some ([], rest) => some ([], rest)
  | some (line, rest) => (takeHead? rest).map fun (lines, rest) => (line :: lines, rest)
termination_by bytes.length
decreasing_by exact takeLine?_length _h

def latin (bytes : List UInt8) : List Char := bytes.map fun b => Char.ofNat b.toNat

def isBlank (c : Char) : Bool := c == ' ' || c == '\t'

def trim (cs : List Char) : List Char :=
  ((cs.dropWhile isBlank).reverse.dropWhile isBlank).reverse

def header? (line : List UInt8) : Option (String × String) :=
  let cs := latin line
  match cs.dropWhile (· ≠ ':') with
  | _ :: value =>
    let name := cs.takeWhile (· ≠ ':')
    if name.isEmpty then none
    else some (String.ofList (name.map Char.toLower), String.ofList (trim value))
  | [] => none

/-- The status of a line such as `HTTP/1.1 200 OK`. -/
def status? (line : List UInt8) : Option Nat :=
  match latin line with
  | 'H' :: 'T' :: 'T' :: 'P' :: '/' :: '1' :: '.' :: v :: ' ' :: cs =>
    if v = '0' ∨ v = '1' then (Text.takeExactly? 3 cs).map (·.1) else none
  | _ => none

def head? : List (List UInt8) → Option Head
  | [] => none
  | line :: lines => do
    let status ← status? line
    let headers ← lines.mapM header?
    some { status, headers }

namespace Head

def get? (h : Head) (name : String) : Option String :=
  (h.headers.find? fun p => p.1 == name).map (·.2)

def requestId? (h : Head) : Option String :=
  (h.get? "x-request-id").filter fun s =>
    s.toList.all fun c => c == '\t' || (0x20 ≤ c.toNat && c.toNat < 0x7F)

def framing? (h : Head) : Option Framing :=
  if h.status = 204 ∨ h.status = 304 then some .empty
  else if (h.get? "transfer-encoding").any (·.toLower == "chunked") then some .chunked
  else
    match h.get? "content-length" with
    | some n => (Text.natOf? n.toList).map .length
    | none => some .untilClose

end Head

/-- The size in front of a chunk; what follows a semicolon does not count. -/
def chunkSize? (line : List UInt8) : Option Nat :=
  let digits := trim ((latin line).takeWhile (· ≠ ';'))
  if digits.isEmpty then none
  else Text.numberIn? 16 digits

/-- The chunks of a body, put together: none while there are more to come, and an inner none for
what is no chunk. -/
def chunks (done : List UInt8) (bytes : List UInt8) : Option (Option (List UInt8)) :=
  match _h : takeLine? bytes with
  | none => none
  | some (line, rest) =>
    match chunkSize? line with
    | none => some none
    | some 0 => some (some done)
    | some n =>
      if rest.length < n then none
      else
        match _h2 : takeLine? (rest.drop n) with
        | none => none
        | some ([], rest') => chunks (done ++ rest.take n) rest'
        | some (_ :: _, _) => some none
termination_by bytes.length
decreasing_by
  have h1 := takeLine?_length _h
  have h2 := takeLine?_length _h2
  simp only [List.length_drop] at h2
  omega

def body (f : Framing) (closed : Bool) (bytes : List UInt8) : Option (Option (List UInt8)) :=
  match f with
  | .empty => some (some [])
  | .length n => if n ≤ bytes.length then some (some (bytes.take n)) else none
  | .chunked => chunks [] bytes
  | .untilClose => if closed then some (some bytes) else none

/-- Reads what has come so far, on a connection that is open or closed. -/
def read (closed : Bool) (bytes : List UInt8) : Progress :=
  match takeHead? bytes with
  | none => if closed then .broken else .more
  | some (lines, rest) =>
    match head? lines with
    | none => .broken
    | some head =>
      match head.framing? with
      | none => .broken
      | some framing =>
        match body framing closed rest with
        | none => if closed then .cutShort else .more
        | some none => .cutShort
        | some (some body) => .done
            { status := head.status, requestId := head.requestId?, body := ⟨body.toArray⟩ }

end RunWatch.Http
