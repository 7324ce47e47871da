import Mathlib.Data.Rat.Floor
import Mathlib.Tactic

/-!
# Dates, times of day and time stamps

A number of seconds is turned into a date and a time of day by walking along consecutive
blocks: years from the year 1 on, and the months of the year that is found.  `locate` is that
walk; it is injective whatever the lengths of the blocks are, so different seconds have
different dates (`ofSeconds_inj`), and different dates have different stamps (`stamp_inj`).  It
keeps the order, so later seconds have later dates (`ofSeconds_lt`) and greater stamps
(`stamp_before`).

`roundHalfEven` is the rounding of a clock reading to a grid; `roundHalfEven_near` is all that
later proofs use of it.
-/

namespace Calendar

/-! ## Walking along blocks -/

/-- The block in which position `n` lies, and the position in it: block `i` comes first and
    there are `fuel` blocks. -/
def locate (len : Nat → Nat) : Nat → Nat → Nat → Option (Nat × Nat)
  | 0, _, _ => none
  | fuel + 1, i, n => if n < len i then some (i, n) else locate len fuel (i + 1) (n - len i)

section Locate

variable {len : Nat → Nat} {fuel i n m : Nat} {p : Nat × Nat}

/-- The block is one of the blocks, and the position is in it. -/
theorem locate_bounds (h : locate len fuel i n = some p) :
    i ≤ p.1 ∧ p.1 < i + fuel ∧ p.2 < len p.1 := by
  induction fuel generalizing i n with
  | zero => cases h
  | succ fuel ih =>
      rw [locate] at h
      split at h
      · rename_i hn
        obtain rfl := Option.some.inj h
        exact ⟨Nat.le_refl i, by omega, hn⟩
      · obtain ⟨hge, hlt, hpos⟩ := ih h
        exact ⟨by omega, by omega, hpos⟩

/-- **Different positions are located differently.** -/
theorem locate_inj (hn : locate len fuel i n = some p) (hm : locate len fuel i m = some p) :
    n = m := by
  induction fuel generalizing i n m with
  | zero => cases hn
  | succ fuel ih =>
      rw [locate] at hn hm
      split at hn
      · obtain rfl := Option.some.inj hn
        split at hm
        · have hpair := Option.some.inj hm
          exact (congrArg Prod.snd hpair).symm
        · -- the other one lies in a later block
          have hlater := (locate_bounds hm).1
          simp only at hlater
          omega
      · split at hm
        · obtain rfl := Option.some.inj hm
          have hlater := (locate_bounds hn).1
          simp only at hlater
          omega
        · have hrest := ih hn hm
          omega

/-- A later position is in a later block, or later in the same block. -/
theorem locate_lt {q : Nat × Nat} (hlt : n < m) (hn : locate len fuel i n = some p)
    (hm : locate len fuel i m = some q) : p.1 < q.1 ∨ p.1 = q.1 ∧ p.2 < q.2 := by
  induction fuel generalizing i n m with
  | zero => cases hn
  | succ fuel ih =>
      rw [locate] at hn hm
      split at hn
      · obtain rfl := Option.some.inj hn
        split at hm
        · obtain rfl := Option.some.inj hm
          exact Or.inr ⟨rfl, hlt⟩
        · exact Or.inl (locate_bounds hm).1
      · split at hm
        · omega
        · exact ih (by omega) hn hm

/-- Where a later position is located, so is an earlier one. -/
theorem locate_isSome_of_le (hle : m ≤ n) (h : (locate len fuel i n).isSome = true) :
    (locate len fuel i m).isSome = true := by
  induction fuel generalizing i n m with
  | zero => cases h
  | succ fuel ih =>
      rw [locate] at h ⊢
      by_cases hm : m < len i
      · rw [if_pos hm]
        rfl
      · rw [if_neg hm]
        rw [if_neg (by omega)] at h
        exact ih (by omega) h

end Locate

/-! ## Dates -/

/-- A leap year of the Gregorian calendar. -/
def isLeap (year : Nat) : Bool := year % 4 == 0 && (year % 100 != 0 || year % 400 == 0)

def yearLength (year : Nat) : Nat := if isLeap year then 366 else 365

def monthLength (leap : Bool) : Nat → Nat
  | 2 => if leap then 29 else 28
  | 4 => 30
  | 6 => 30
  | 9 => 30
  | 11 => 30
  | _ => 31

theorem monthLength_le (leap : Bool) (month : Nat) : monthLength leap month ≤ 31 := by
  rw [monthLength.eq_def]
  split
  · split <;> decide
  · decide
  · decide
  · decide
  · decide
  · decide

/-- A date and a time of day. -/
@[ext] structure DateTime where
  year : Nat
  month : Nat
  day : Nat
  hour : Nat
  minute : Nat
  second : Nat
deriving DecidableEq, Repr

/-- The date and time so many seconds after the beginning of the year 1; years have four
    digits. -/
def ofSeconds (n : Nat) : Option DateTime :=
  (locate yearLength 9999 1 (n / 86400)).bind fun year =>
    (locate (monthLength (isLeap year.1)) 12 1 year.2).map fun month =>
      { year := year.1, month := month.1, day := month.2 + 1,
        hour := n % 86400 / 3600, minute := n % 3600 / 60, second := n % 60 }

/-- The fields have at most four and two digits. -/
structure DateTime.InRange (t : DateTime) : Prop where
  year : t.year < 10000
  month : t.month < 100
  day : t.day < 100
  hour : t.hour < 100
  minute : t.minute < 100
  second : t.second < 100

section OfSeconds

variable {n m : Nat} {t : DateTime}

theorem ofSeconds_inv (h : ofSeconds n = some t) : ∃ year month,
    locate yearLength 9999 1 (n / 86400) = some year ∧
      locate (monthLength (isLeap year.1)) 12 1 year.2 = some month ∧
      t = { year := year.1, month := month.1, day := month.2 + 1,
            hour := n % 86400 / 3600, minute := n % 3600 / 60, second := n % 60 } := by
  obtain ⟨year, hyear, hdate⟩ := Option.bind_eq_some_iff.mp h
  obtain ⟨month, hmonth, rfl⟩ := Option.map_eq_some_iff.mp hdate
  exact ⟨year, month, hyear, hmonth, rfl⟩

theorem ofSeconds_inRange (h : ofSeconds n = some t) : t.InRange := by
  obtain ⟨year, month, hyear, hmonth, rfl⟩ := ofSeconds_inv h
  obtain ⟨-, hyear, -⟩ := locate_bounds hyear
  obtain ⟨-, hmonth, hday⟩ := locate_bounds hmonth
  have hlength := monthLength_le (isLeap year.1) month.1
  refine ⟨?_, ?_, ?_, ?_, ?_, ?_⟩ <;> dsimp only <;> omega

/-- **Different seconds have different dates and times.** -/
theorem ofSeconds_inj (hn : ofSeconds n = some t) (hm : ofSeconds m = some t) : n = m := by
  obtain ⟨year, month, hyear, hmonth, rfl⟩ := ofSeconds_inv hn
  obtain ⟨year', month', hyear', hmonth', heq⟩ := ofSeconds_inv hm
  injection heq with hy hmo hd hh hmi hs
  have hmonths : month = month' := Prod.ext hmo (Nat.succ.inj hd)
  subst hmonths
  rw [← hy] at hmonth'
  have hyears : year = year' := Prod.ext hy (locate_inj hmonth hmonth')
  subst hyears
  have hdays := locate_inj hyear hyear'
  omega

/-- Every day of a year is in one of its months. -/
theorem month_isSome {year day : Nat} (h : day < yearLength year) :
    (locate (monthLength (isLeap year)) 12 1 day).isSome = true := by
  rw [yearLength] at h
  cases hleap : isLeap year with
  | true =>
      rw [hleap, if_pos rfl] at h
      have hlast : (locate (monthLength true) 12 1 365).isSome = true := by decide
      exact locate_isSome_of_le (by omega) hlast
  | false =>
      rw [hleap, if_neg Bool.false_ne_true] at h
      have hlast : (locate (monthLength false) 12 1 364).isSome = true := by decide
      exact locate_isSome_of_le (by omega) hlast

/-- An earlier second has a date and time, too. -/
theorem ofSeconds_isSome_of_le (hle : m ≤ n) (h : (ofSeconds n).isSome = true) :
    (ofSeconds m).isSome = true := by
  obtain ⟨t, ht⟩ := Option.isSome_iff_exists.mp h
  obtain ⟨year, -, hyear, -⟩ := ofSeconds_inv ht
  have hlocated : (locate yearLength 9999 1 (m / 86400)).isSome = true :=
    locate_isSome_of_le (Nat.div_le_div_right hle) (by rw [hyear]; rfl)
  obtain ⟨early, hearly⟩ := Option.isSome_iff_exists.mp hlocated
  obtain ⟨-, -, hday⟩ := locate_bounds hearly
  obtain ⟨month, hmonth⟩ := Option.isSome_iff_exists.mp (month_isSome hday)
  rw [ofSeconds, hearly, Option.bind_some, hmonth]
  rfl

end OfSeconds

/-! ## Stamps -/

/-- Two decimal digits. -/
def pad2 (n : Nat) : List Char := [(n / 10).digitChar, (n % 10).digitChar]

/-- Four decimal digits. -/
def pad4 (n : Nat) : List Char := pad2 (n / 100) ++ pad2 (n % 100)

theorem digitChar_inj : ∀ i < 10, ∀ j < 10, i.digitChar = j.digitChar → i = j := by decide

theorem pad2_inj {n m : Nat} (hn : n < 100) (hm : m < 100) (h : pad2 n = pad2 m) : n = m := by
  obtain ⟨hten, hone⟩ := List.cons.inj h
  have hten := digitChar_inj _ (by omega) _ (by omega) hten
  have hone := digitChar_inj _ (by omega) _ (by omega) (List.cons.inj hone).1
  omega

theorem pad4_inj {n m : Nat} (hn : n < 10000) (hm : m < 10000) (h : pad4 n = pad4 m) :
    n = m := by
  obtain ⟨hhigh, hlow⟩ := List.append_inj h rfl
  have hhigh := pad2_inj (by omega) (by omega) hhigh
  have hlow := pad2_inj (by omega) (by omega) hlow
  omega

/-- Year, month and day, an underscore, hours, minutes and seconds. -/
def stamp (t : DateTime) : List Char :=
  pad4 t.year ++ (pad2 t.month ++ (pad2 t.day ++
    ('_' :: (pad2 t.hour ++ (pad2 t.minute ++ pad2 t.second)))))

/-- **Different dates and times have different stamps.** -/
theorem stamp_inj {t u : DateTime} (ht : t.InRange) (hu : u.InRange) (h : stamp t = stamp u) :
    t = u := by
  obtain ⟨hyear, h⟩ := List.append_inj h rfl
  obtain ⟨hmonth, h⟩ := List.append_inj h rfl
  obtain ⟨hday, h⟩ := List.append_inj h rfl
  obtain ⟨hhour, h⟩ := List.append_inj (List.cons.inj h).2 rfl
  obtain ⟨hminute, hsecond⟩ := List.append_inj h rfl
  ext
  · exact pad4_inj ht.year hu.year hyear
  · exact pad2_inj ht.month hu.month hmonth
  · exact pad2_inj ht.day hu.day hday
  · exact pad2_inj ht.hour hu.hour hhour
  · exact pad2_inj ht.minute hu.minute hminute
  · exact pad2_inj ht.second hu.second hsecond

/-! ## The order of stamps -/

/-- Earlier: less in the first field that differs. -/
def DateTime.Before (t u : DateTime) : Prop :=
  t.year < u.year ∨ t.year = u.year ∧ (t.month < u.month ∨ t.month = u.month ∧
    (t.day < u.day ∨ t.day = u.day ∧ (t.hour < u.hour ∨ t.hour = u.hour ∧
      (t.minute < u.minute ∨ t.minute = u.minute ∧ t.second < u.second))))

/-- **Dates and times are in the order of the seconds.** -/
theorem ofSeconds_lt {n m : Nat} {t u : DateTime} (hlt : n < m) (hn : ofSeconds n = some t)
    (hm : ofSeconds m = some u) : t.Before u := by
  obtain ⟨year, month, hyear, hmonth, rfl⟩ := ofSeconds_inv hn
  obtain ⟨year', month', hyear', hmonth', rfl⟩ := ofSeconds_inv hm
  rcases Nat.lt_or_ge (n / 86400) (m / 86400) with hday | hday
  · rcases locate_lt hday hyear hyear' with hless | ⟨hsame, hless⟩
    · exact Or.inl hless
    · rw [← hsame] at hmonth'
      rcases locate_lt hless hmonth hmonth' with hless | ⟨hequal, hless⟩
      · exact Or.inr ⟨hsame, Or.inl hless⟩
      · exact Or.inr ⟨hsame, Or.inr ⟨hequal, Or.inl (Nat.succ_lt_succ hless)⟩⟩
  · have hday : n / 86400 = m / 86400 := by omega
    rw [hday, hyear'] at hyear
    obtain rfl := Option.some.inj hyear
    rw [hmonth'] at hmonth
    obtain rfl := Option.some.inj hmonth
    refine Or.inr ⟨rfl, Or.inr ⟨rfl, Or.inr ⟨rfl, ?_⟩⟩⟩
    dsimp only
    omega

theorem digitChar_lt : ∀ i < 10, ∀ j < 10, i < j → i.digitChar < j.digitChar := by decide

section Before

variable {n m : Nat} {r s : List Char}

theorem pad2_before (hn : n < 100) (hm : m < 100) (h : n < m ∨ n = m ∧ r < s) :
    pad2 n ++ r < pad2 m ++ s := by
  show (n / 10).digitChar :: (n % 10).digitChar :: r < (m / 10).digitChar :: (m % 10).digitChar :: s
  rcases h with hlt | ⟨rfl, hrest⟩
  · rcases Nat.lt_or_ge (n / 10) (m / 10) with hten | hten
    · exact List.Lex.rel (digitChar_lt _ (by omega) _ (by omega) hten)
    · have hten : n / 10 = m / 10 := by omega
      rw [hten]
      exact List.Lex.cons (List.Lex.rel (digitChar_lt _ (by omega) _ (by omega) (by omega)))
  · exact List.Lex.cons (List.Lex.cons hrest)

theorem pad4_before (hn : n < 10000) (hm : m < 10000) (h : n < m ∨ n = m ∧ r < s) :
    pad4 n ++ r < pad4 m ++ s := by
  rw [pad4, pad4, List.append_assoc, List.append_assoc]
  rcases h with hlt | ⟨rfl, hrest⟩
  · rcases Nat.lt_or_ge (n / 100) (m / 100) with hhigh | hhigh
    · exact pad2_before (by omega) (by omega) (Or.inl hhigh)
    · refine pad2_before (by omega) (by omega) (Or.inr ⟨by omega, ?_⟩)
      exact pad2_before (by omega) (by omega) (Or.inl (by omega))
  · refine pad2_before (by omega) (by omega) (Or.inr ⟨rfl, ?_⟩)
    exact pad2_before (by omega) (by omega) (Or.inr ⟨rfl, hrest⟩)

/-- **Stamps are in the order of the dates and times**, whatever comes after them. -/
theorem stamp_before {t u : DateTime} (ht : t.InRange) (hu : u.InRange) (h : t.Before u) :
    stamp t ++ r < stamp u ++ s := by
  simp only [stamp, List.append_assoc, List.cons_append]
  refine pad4_before ht.year hu.year (h.imp_right fun ⟨hyear, h⟩ => ⟨hyear, ?_⟩)
  refine pad2_before ht.month hu.month (h.imp_right fun ⟨hmonth, h⟩ => ⟨hmonth, ?_⟩)
  refine pad2_before ht.day hu.day (h.imp_right fun ⟨hday, h⟩ => ⟨hday, List.Lex.cons ?_⟩)
  refine pad2_before ht.hour hu.hour (h.imp_right fun ⟨hhour, h⟩ => ⟨hhour, ?_⟩)
  refine pad2_before ht.minute hu.minute (h.imp_right fun ⟨hminute, h⟩ => ⟨hminute, ?_⟩)
  exact pad2_before ht.second hu.second (Or.inl h)

end Before

/-! ## Rounding -/

/-- The nearest integer, and of two the even one. -/
def roundHalfEven (x : ℚ) : Int :=
  let n := x.floor
  let rest := x - n
  if rest < 1 / 2 then n
  else if 1 / 2 < rest then n + 1
  else if n % 2 = 0 then n else n + 1

/-- It is at most one half away. -/
theorem roundHalfEven_near (x : ℚ) :
    x - 1 / 2 ≤ roundHalfEven x ∧ (roundHalfEven x : ℚ) ≤ x + 1 / 2 := by
  have hle : (x.floor : ℚ) ≤ x := Rat.floor_le x
  have hlt : x < (x.floor + 1 : Int) := Rat.lt_floor_add_one x
  push_cast at hlt
  simp only [roundHalfEven]
  split
  · rename_i hlow
    constructor <;> linarith
  · rename_i hlow
    split
    · rename_i hhigh
      push_cast
      constructor <;> linarith
    · rename_i hhigh
      split
      · constructor <;> linarith
      · push_cast
        constructor <;> linarith

end Calendar
