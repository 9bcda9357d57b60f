import RunWatch.Proofs.Display
set_option autoImplicit false

namespace RunWatch

namespace Timestamp

theorem append_padded_inj {width m n : Nat} (hw : 0 < width) {a b : String}
    (hm : m < 10 ^ width) (hn : n < 10 ^ width)
    (h : a ++ Text.padded width m = b ++ Text.padded width n) : a = b ∧ m = n := by
  have hlists := congrArg String.toList h
  rw [String.toList_append, String.toList_append] at hlists
  have hlength := (Text.length_padded hw hm).trans (Text.length_padded hw hn).symm
  obtain ⟨ha, hb⟩ := List.append_inj' hlists hlength
  exact ⟨String.toList_inj.1 ha, Text.padded_injective (String.toList_inj.1 hb)⟩

theorem minus_append_padded_ne (width m n : Nat) :
    "-" ++ Text.padded width m ≠ "" ++ Text.padded width n := by
  intro h
  have hlists := congrArg String.toList h
  obtain ⟨ds, hds, hlt, -⟩ := Text.digits_padded width n
  have hmem : '-' ∈ ds.map Nat.digitChar := by
    rw [String.empty_append, hds, String.toList_append] at hlists
    rw [← hlists]
    exact List.mem_append_left _ List.mem_cons_self
  obtain ⟨d, hd, hchar⟩ := List.mem_map.1 hmem
  have hdigit := Text.digit?_digitChar (hlt d hd)
  rw [hchar] at hdigit
  cases hdigit

theorem yearText_injective {y z : Int} (h : yearText y = yearText z) : y = z := by
  unfold yearText at h
  rcases Int.lt_or_le y 0 with hy | hy <;> rcases Int.lt_or_le z 0 with hz | hz
  · rw [if_pos hy, if_pos hz, String.append_right_inj] at h
    have := Text.padded_injective h
    omega
  · rw [if_pos hy, if_neg (Int.not_lt.2 hz)] at h
    exact absurd h (minus_append_padded_ne _ _ _)
  · rw [if_neg (Int.not_lt.2 hy), if_pos hz] at h
    exact absurd h.symm (minus_append_padded_ne _ _ _)
  · rw [if_neg (Int.not_lt.2 hy), if_neg (Int.not_lt.2 hz), String.append_right_inj] at h
    have := Text.padded_injective h
    omega

theorem dateText_injective {d e : Date} (hd : d.isValid = true) (he : e.isValid = true)
    (h : dateText d = dateText e) : d = e := by
  have hwidths {d : Date} (hd : d.isValid = true) : d.month < 10 ^ 2 ∧ d.day < 10 ^ 2 := by
    have hday := Date.monthLength_le d.year d.month
    simp only [Date.isValid, Bool.and_eq_true, decide_eq_true_eq] at hd
    omega
  unfold dateText at h
  obtain ⟨h, hday⟩ := append_padded_inj (by decide) (hwidths hd).2 (hwidths he).2 h
  rw [String.append_left_inj] at h
  obtain ⟨h, hmonth⟩ := append_padded_inj (by decide) (hwidths hd).1 (hwidths he).1 h
  rw [String.append_left_inj] at h
  have hyear := yearText_injective h
  cases d
  cases e
  congr

theorem IsMinute.seconds_div_eq {t u : Timestamp} {s : String} (ht : t.IsMinute s)
    (hu : u.IsMinute s) : t.seconds / 60 = u.seconds / 60 := by
  obtain ⟨d, hour, minute, hd, hhour, hminute, hstart, hs⟩ := ht
  obtain ⟨e, hour', minute', he, hhour', hminute', hstart', h⟩ := hu
  rw [hs, String.append_left_inj] at h
  obtain ⟨h, hminutes⟩ := append_padded_inj (by decide) (by omega) (by omega) h
  rw [String.append_left_inj] at h
  obtain ⟨h, hhours⟩ := append_padded_inj (by decide) (by omega) (by omega) h
  rw [String.append_left_inj] at h
  have hdate := dateText_injective hd he h
  rw [← hdate] at hstart'
  omega

/-- What an instant is displayed as depends on the minute alone. -/
theorem minuteText?_congr {t u : Timestamp} (h : t.seconds / 60 = u.seconds / 60) :
    t.minuteText? = u.minuteText? := by
  have hday : t.seconds / secondsPerDay = u.seconds / secondsPerDay := by
    simp only [secondsPerDay]
    omega
  have hhour : (t.seconds % secondsPerDay).toNat / 3600 =
      (u.seconds % secondsPerDay).toNat / 3600 := by
    simp only [secondsPerDay]
    omega
  have hminute : (t.seconds % secondsPerDay).toNat / 60 % 60 =
      (u.seconds % secondsPerDay).toNat / 60 % 60 := by
    simp only [secondsPerDay]
    omega
  have hdate : t.date = u.date := congrArg Date.ofDayNumber hday
  simp only [minuteText?, hdate, hhour, hminute]

theorem minuteText?_eq_iff {t u : Timestamp} (ht : t.date.year ≤ lastYear)
    (hu : u.date.year ≤ lastYear) :
    t.minuteText? = u.minuteText? ↔ t.seconds / 60 = u.seconds / 60 := by
  refine ⟨fun h => ?_, minuteText?_congr⟩
  obtain ⟨s, hs, htext⟩ := isMinute_minuteText ((year_le_lastYear_iff t).1 ht)
  obtain ⟨s', hs', htext'⟩ := isMinute_minuteText ((year_le_lastYear_iff u).1 hu)
  obtain rfl : s = s' := Option.some.inj (hs.symm.trans (h.trans hs'))
  exact htext.seconds_div_eq htext'

theorem Written.Spells.display?_eq {w : Written} {text : String} (h : w.Spells text) :
    display? (some text) = w.instant.minuteText? := by
  simp [display?, h.read?_eq]

/-- Timestamps of years that can be shown are displayed alike exactly if their instants lie in the
same minute, and are displayed as that minute in UTC. A text that is no timestamp stays as it is. -/
theorem display_eq_iff_same_minute {a b : String} {v w : Written} (ha : v.Spells a)
    (hb : w.Spells b) (hv : v.instant.date.year ≤ lastYear)
    (hw : w.instant.date.year ≤ lastYear) :
    (display? (some a) = display? (some b) ↔
      v.instant.seconds / 60 = w.instant.seconds / 60) ∧
    (∃ s, display? (some a) = some s ∧ v.instant.IsMinute s) ∧
    (∀ c t, read? c = some t ↔ ∃ u : Written, u.Spells c ∧ u.instant = t) ∧
    ∀ c, (¬ ∃ u : Written, u.Spells c) → display? (some c) = some c := by
  refine ⟨?_, ?_, fun c t => read?_eq_some_iff, fun c hc => ?_⟩
  · rw [ha.display?_eq, hb.display?_eq]
    exact minuteText?_eq_iff hv hw
  · rw [ha.display?_eq]
    exact isMinute_minuteText ((year_le_lastYear_iff _).1 hv)
  · cases hread : read? c with
    | none => simp [display?, hread]
    | some t =>
      obtain ⟨u, hu, -⟩ := exists_written_of_read? hread
      exact absurd ⟨u, hu⟩ hc

/-- Half past midnight on the first day of all, an hour ahead of UTC: still the year before. -/
def firstDay : Written := ⟨⟨0, 1, 1⟩, 'T', 0, 30, 0, [], .ahead 1 0⟩

def firstDayAhead : Written := ⟨⟨0, 1, 1⟩, ' ', 12, 30, 59, [9, 9], .ahead 13 0⟩

def leapSecond : Written := ⟨⟨2016, 12, 31⟩, 'T', 23, 59, 60, [], .utc 'Z'⟩

def leapMinute : Written := ⟨⟨2017, 1, 1⟩, 'T', 8, 59, 0, [2, 5], .ahead 9 0⟩

theorem firstDay_spells : firstDay.Spells "0000-01-01T00:30:00+01:00" :=
  ⟨⟨by decide, by decide, by decide, by decide, by decide, ⟨by decide, by decide⟩, by decide⟩,
    by decide⟩

theorem firstDayAhead_spells : firstDayAhead.Spells "0000-01-01 12:30:59.99+13:00" :=
  ⟨⟨by decide, by decide, by decide, by decide, by decide, ⟨by decide, by decide⟩, by decide⟩,
    by decide⟩

theorem leapSecond_spells : leapSecond.Spells "2016-12-31T23:59:60Z" :=
  ⟨⟨by decide, by decide, by decide, by decide, by decide, .inl rfl, by decide⟩, by decide⟩

theorem leapMinute_spells : leapMinute.Spells "2017-01-01T08:59:00.25+09:00" :=
  ⟨⟨by decide, by decide, by decide, by decide, by decide, ⟨by decide, by decide⟩, by decide⟩,
    by decide⟩

theorem display_eq_at_year_ends :
    display? (some "0000-01-01T00:30:00+01:00") = some "-0001-12-31 23:30 UTC" ∧
    display? (some "0000-01-01 12:30:59.99+13:00") = some "-0001-12-31 23:30 UTC" ∧
    display? (some "2016-12-31T23:59:60Z") = display? (some "2017-01-01T08:59:00.25+09:00") := by
  have hfirst := display_eq_iff_same_minute firstDay_spells firstDayAhead_spells (by decide)
    (by decide)
  have hleap := display_eq_iff_same_minute leapSecond_spells leapMinute_spells (by decide)
    (by decide)
  have hshown : display? (some "0000-01-01T00:30:00+01:00") = some "-0001-12-31 23:30 UTC" := by
    decide +kernel
  exact ⟨hshown, (hfirst.1.2 (by decide)).symm.trans hshown, hleap.1.2 (by decide)⟩

end Timestamp

end RunWatch
