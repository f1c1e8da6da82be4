import Mathlib.Algebra.Group.Nat.Defs
import SoloScenario.Proofs.Delimiting
import SoloScenario.Proofs.LineStructure

/-! The time in the comment of a document. Up to the comment a document is the same at every
time, so two documents differ only if the texts of their times do. The standard form of a time
tells all of it but the name of the zone: its numbers have fixed widths, and of the parts that
may be left out each starts with a sign of its own. -/

namespace SoloScenario

namespace Text

/-! ### Numbers of fixed width -/

theorem ofDecimal_padded (width n : Nat) : ofDecimal (padded width n) = n := by
  have zeros (count : Nat) (cs : List Char) :
      ofDecimal (List.replicate count '0' ++ cs) = ofDecimal cs := by
    induction count with
    | zero => rfl
    | succ count ih => exact ih
  rw [padded, zeros, ofDecimal_decimal]

theorem length_padded_of_lt {width n : Nat} (hw : 0 < width) (h : n < 10 ^ width) :
    (padded width n).length = width := by
  have digits : (decimal n).length ≤ width := by
    rw [decimal, Nat.toList_repr]
    exact (Nat.length_toDigits_le_iff (by decide) hw).2 h
  rw [length_padded, Nat.max_eq_left digits]

/-- Numbers that fit the width tell where they end. -/
theorem padded_append_inj {width m n : Nat} (hm : m < 10 ^ width) (hn : n < 10 ^ width)
    (hw : 0 < width) {x y : List Char} (same : padded width m ++ x = padded width n ++ y) :
    m = n ∧ x = y := by
  have length : (padded width m).length = (padded width n).length := by
    rw [length_padded_of_lt hw hm, length_padded_of_lt hw hn]
  obtain ⟨number, rest⟩ := List.append_inj same length
  rw [← ofDecimal_padded width m, number, ofDecimal_padded]
  exact ⟨rfl, rest⟩

end Text

namespace Time

open Text

/-! ### Parts that may be left out -/

/-- Microseconds end where something follows that does not start with their mark. -/
theorem microsecondText_append_inj {m n : Nat} (hm : m < 1000000) (hn : n < 1000000)
    {x y : List Char} (hx : x.head? ≠ some '.') (hy : y.head? ≠ some '.')
    (same : microsecondText m ++ x = microsecondText n ++ y) : m = n ∧ x = y := by
  unfold microsecondText at same
  split at same
  · next zero =>
    split at same
    · next zero' => exact ⟨zero.trans zero'.symm, same⟩
    · exact absurd (congrArg List.head? same) hx
  · split at same
    · exact absurd (congrArg List.head? same).symm hy
    · have digits : padded 6 m ++ x = padded 6 n ++ y := List.tail_eq_of_cons_eq same
      exact padded_append_inj hm hn (by decide) digits

/-- The part of an offset below a minute, in seconds and microseconds. -/
def lowText (second microsecond : Nat) : List Char :=
  if second = 0 ∧ microsecond = 0 then []
  else ':' :: (padded 2 second ++ microsecondText microsecond)

theorem lowText_inj {s m s' m' : Nat} (hs : s < 60) (hm : m < 1000000) (hs' : s' < 60)
    (hm' : m' < 1000000) (same : lowText s m = lowText s' m') : s = s' ∧ m = m' := by
  unfold lowText at same
  split at same
  · next none =>
    split at same
    · next none' => exact ⟨none.1.trans none'.1.symm, none.2.trans none'.2.symm⟩
    · cases same
  · split at same
    · cases same
    · obtain ⟨second, rest⟩ :=
        padded_append_inj (by omega) (by omega) (by decide) (List.tail_eq_of_cons_eq same)
      have none : ([] : List Char).head? ≠ some '.' := by decide
      obtain ⟨micro, -⟩ := microsecondText_append_inj hm hm' none none (by rw [rest])
      exact ⟨second, micro⟩

theorem offsetText_eq (n : Int) : offsetText [':'] n =
    (if n < 0 then '-' else '+') :: (padded 2 (n.natAbs / 1000000 / 3600) ++ ':' ::
      (padded 2 (n.natAbs / 1000000 / 60 % 60) ++
        lowText (n.natAbs / 1000000 % 60) (n.natAbs % 1000000))) := by
  simp [offsetText, lowText]

/-- Sign, hours, minutes and what is below a minute tell an offset. -/
theorem offsetText_inj {m n : Int} (hm : IsOffset m) (hn : IsOffset n)
    (same : offsetText [':'] m = offsetText [':'] n) : m = n := by
  obtain ⟨lowm, highm⟩ := hm
  obtain ⟨lown, highn⟩ := hn
  rw [offsetText_eq, offsetText_eq] at same
  obtain ⟨sign, same⟩ := List.cons.inj same
  obtain ⟨hour, same⟩ := padded_append_inj (by omega) (by omega) (by decide) same
  obtain ⟨minute, same⟩ :=
    padded_append_inj (by omega) (by omega) (by decide) (List.tail_eq_of_cons_eq same)
  obtain ⟨second, micro⟩ := lowText_inj (by omega) (by omega) (by omega) (by omega) same
  have size : m.natAbs = n.natAbs := by omega
  have signs : m < 0 ↔ n < 0 := by
    split at sign <;> split at sign <;> first | omega | simp at sign
  omega

/-- An offset, or nothing without a zone. -/
def zoneText : Option Int → List Char
  | none => []
  | some offset => offsetText [':'] offset

theorem isOffset_of_mem {zone : Option Zone} {n : Int} (h : n ∈ zone.map (·.offset)) :
    IsOffset n := by
  obtain ⟨z, -, rfl⟩ := Option.map_eq_some_iff.1 h
  exact z.isOffset

theorem zoneText_inj {m n : Option Int} (hm : ∀ o ∈ m, IsOffset o) (hn : ∀ o ∈ n, IsOffset o)
    (same : zoneText m = zoneText n) : m = n := by
  cases m with
  | none =>
    cases n with
    | none => rfl
    | some n => cases same
  | some m =>
    cases n with
    | none => cases same
    | some n => exact congrArg some (offsetText_inj (hm m rfl) (hn n rfl) same)

theorem head?_zoneText_ne (zone : Option Int) : (zoneText zone).head? ≠ some '.' := by
  cases zone with
  | none => simp [zoneText]
  | some offset =>
    rw [zoneText, offsetText_eq]
    split <;> simp

/-! ### Standard form -/

theorem delimits_iso : Delimits Date.iso := by
  have fits (d : Date) : d.year < 10 ^ 4 ∧ d.month < 10 ^ 2 ∧ d.day < 10 ^ 2 := by
    have last := d.isDay.2
    have days : daysInMonth d.year d.month ≤ 31 := by
      unfold daysInMonth
      repeat' split
      all_goals decide
    exact ⟨Nat.lt_succ_of_le d.isYear.2, Nat.lt_of_le_of_lt d.isMonth.2 (by decide), by omega⟩
  intro d d' x y same
  simp only [Date.iso, List.append_assoc, List.cons_append] at same
  obtain ⟨year, same⟩ := padded_append_inj (fits d).1 (fits d').1 (by decide) same
  obtain ⟨month, same⟩ := padded_append_inj (fits d).2.1 (fits d').2.1 (by decide)
    (List.tail_eq_of_cons_eq same)
  obtain ⟨day, same⟩ := padded_append_inj (fits d).2.2 (fits d').2.2 (by decide)
    (List.tail_eq_of_cons_eq same)
  cases d
  cases d'
  simp_all

/-- The time of day tells where it ends, unless what follows looks like microseconds. -/
theorem clock_append_inj {t t' : Stamp} {x y : List Char} (hx : x.head? ≠ some '.')
    (hy : y.head? ≠ some '.') (same : t.clock ++ x = t'.clock ++ y) :
    (t.hour = t'.hour ∧ t.minute = t'.minute ∧ t.second = t'.second ∧
      t.microsecond = t'.microsecond) ∧ x = y := by
  have fits {n k : Nat} (h : n < k) (hk : k ≤ 60) : n < 10 ^ 2 := by omega
  simp only [Stamp.clock, List.append_assoc, List.cons_append] at same
  obtain ⟨hour, same⟩ := padded_append_inj (fits t.hour_lt (by decide))
    (fits t'.hour_lt (by decide)) (by decide) same
  obtain ⟨minute, same⟩ := padded_append_inj (fits t.minute_lt (by decide))
    (fits t'.minute_lt (by decide)) (by decide) (List.tail_eq_of_cons_eq same)
  obtain ⟨second, same⟩ := padded_append_inj (fits t.second_lt (by decide))
    (fits t'.second_lt (by decide)) (by decide) (List.tail_eq_of_cons_eq same)
  obtain ⟨microsecond, rest⟩ :=
    microsecondText_append_inj t.microsecond_lt t'.microsecond_lt hx hy same
  exact ⟨⟨hour, minute, second, microsecond⟩, rest⟩

/-- Two stamps with the same date and time of day, both without a zone or both at one offset from
universal time. -/
structure Stamp.SameReading (t t' : Stamp) : Prop where
  year : t.date.year = t'.date.year
  month : t.date.month = t'.date.month
  day : t.date.day = t'.date.day
  hour : t.hour = t'.hour
  minute : t.minute = t'.minute
  second : t.second = t'.second
  microsecond : t.microsecond = t'.microsecond
  offset : t.zone.map (·.offset) = t'.zone.map (·.offset)

theorem standard_eq (between : Char) (t : Stamp) :
    t.standard between =
      t.date.iso ++ between :: (t.clock ++ zoneText (t.zone.map (·.offset))) := by
  rw [Stamp.standard]
  cases t.zone <;> rfl

/-- The standard form of a time tells the time. -/
theorem iso_eq_iff {t t' : Stamp} : t.iso = t'.iso ↔ t.SameReading t' := by
  rw [Stamp.iso, Stamp.iso, String.ofList_inj, standard_eq, standard_eq]
  constructor
  · intro same
    obtain ⟨date, same⟩ := delimits_iso same
    obtain ⟨⟨hour, minute, second, microsecond⟩, same⟩ :=
      clock_append_inj (head?_zoneText_ne _) (head?_zoneText_ne _) (List.tail_eq_of_cons_eq same)
    exact ⟨by rw [date], by rw [date], by rw [date], hour, minute, second, microsecond,
      zoneText_inj (fun _ => isOffset_of_mem) (fun _ => isOffset_of_mem) same⟩
  · rintro ⟨year, month, day, hour, minute, second, microsecond, offset⟩
    rw [Date.iso, Date.iso, Stamp.clock, Stamp.clock, year, month, day, hour, minute, second,
      microsecond, offset]

end Time

namespace Document

open Time

/-! ### Documents at two times -/

/-- The documents of a record at two times are the same up to the comment, and are the same if
the texts of the times are; in standard form the texts are the same only if the times are, whatever
their zones are called. -/
theorem render_eq_iff_sameReading (c : Config) (r : Record) (t t' : Stamp) :
    ((render c r t).1 = body c.separator r ++ (footer c t ++ c.separator) ∧
        (render c r t').1 = body c.separator r ++ (footer c t' ++ c.separator)) ∧
      ((render c r t).1 = (render c r t').1 ↔ c.timeText t = c.timeText t') ∧
      (c.pattern = none ∨ c.pattern = some "" →
        ((render c r t).1 = (render c r t').1 ↔ t.SameReading t')) := by
  have whole (t : Stamp) : (render c r t).1 = body c.separator r ++ (footer c t ++ c.separator) :=
    text_eq c r t
  have texts : (render c r t).1 = (render c r t').1 ↔ c.timeText t = c.timeText t' := by
    rw [whole, whole, String.append_right_inj, String.append_left_inj, footer_eq, footer_eq,
      String.append_right_inj]
  refine ⟨⟨whole t, whole t'⟩, texts, fun standard => ?_⟩
  have iso (t : Stamp) : c.timeText t = t.iso := by
    obtain none | empty := standard
    · rw [Config.timeText, none]
    · rw [Config.timeText, empty]
      rfl
  rw [texts, iso, iso, iso_eq_iff]

/-- Two stamps at the last offset but for the name of their zone make the same document. -/
theorem render_eq_of_renamed_zone :
    let r : Record := ⟨["@a"], "Login", "Valid login", [], []⟩
    let t : Stamp := .mk (.mk 2017 6 1) 12 30 0 7 (some (.mk (-86399999999) none))
    let t' : Stamp := .mk (.mk 2017 6 1) 12 30 0 7 (some (.mk (-86399999999) (some "EST")))
    ({} : Config).pattern = none ∧ t ≠ t' ∧ (render {} r t).1 = (render {} r t').1 := by
  intro r t t'
  have standard : ({} : Config).pattern = none := rfl
  have same : t.SameReading t' := ⟨rfl, rfl, rfl, rfl, rfl, rfl, rfl, rfl⟩
  refine ⟨standard, by decide, ?_⟩
  exact ((render_eq_iff_sameReading {} r t t').2.2 (.inl standard)).2 same

end Document

end SoloScenario
