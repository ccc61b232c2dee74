import Mathlib.Algebra.Field.Rat
import Mathlib.Algebra.GroupWithZero.Basic
import Mathlib.Data.Rat.Cast.Defs
import Mathlib.Tactic.NormNum
import DataShape.Value.Equality

/-!
# Equal values

Truth values, numbers, texts, dates and date-times are equal exactly if they stand for the same.

A date-time in a zone stands for an instant, unless its offset hangs on the fold: then it is only
equal to what the clock of its region shows alike.

* `Magnitude`, `Binary64.magnitude?` — what a number is worth, exactly; nothing if it is not a
  number.  `Binary64.sameDyadic_iff`, `Value.Number.eqv_iff` — numbers are equal iff they are worth
  the same.
* `DateTime.ShareZones` — what one identity stands for in several date-times is one region.
* `Content`, `Value.content?` — what a value that is compared by content stands for.
* `Value.eqv_iff_content` — values of one such kind are equal iff they stand for the same, so that
  equality is symmetric and transitive there, and reflexive but for what is not a number.
* `Value.isObject_or_eqv_self` — every value is the same object as itself, or equal to itself.
-/

namespace DataShape

/-- Two things that are some same thing are the same. -/
theorem exists_common_iff {α : Type} {a b : α} :
    (∃ c, some a = some c ∧ some b = some c) ↔ a = b := by
  constructor
  · rintro ⟨c, ha, hb⟩
    exact (Option.some.inj ha).trans (Option.some.inj hb).symm
  · rintro rfl
    exact ⟨a, rfl, rfl⟩

/-! ## Numbers -/

/-- What a number is worth. -/
inductive Magnitude where
  | rational (q : ℚ)
  | infinite (negative : Bool)

namespace Binary64

/-- What a double is worth.  Both zeros are worth zero. -/
def magnitude? : Binary64 → Option Magnitude
  | .nan => none
  | .infinite negative => some (.infinite negative)
  | .finite negative m e => some (.rational (((signed negative m : Int) : ℚ) * 2 ^ e))

theorem cast_power {k : Int} (hk : 0 ≤ k) : ((power 2 k : Nat) : ℚ) = 2 ^ k := by
  obtain ⟨n, rfl⟩ := Int.eq_ofNat_of_zero_le hk
  have hpow : power 2 (n : Int) = 2 ^ n := rfl
  rw [hpow, zpow_natCast, Nat.cast_pow, Nat.cast_ofNat]

/-- Bringing the greater exponent down to the lower one keeps the number. -/
theorem scaled_iff {a b d e : Int} (h : d ≤ e) :
    a = b * power 2 (e - d) ↔ (a : ℚ) * 2 ^ d = b * 2 ^ e := by
  have htwo : (2 : ℚ) ≠ 0 := by norm_num
  have hsplit : (2 : ℚ) ^ e = ((power 2 (e - d) : Nat) : ℚ) * 2 ^ d := by
    rw [cast_power (by omega), ← zpow_add₀ htwo, Int.sub_add_cancel]
  rw [hsplit, ← mul_assoc, mul_left_inj' (zpow_ne_zero d htwo)]
  norm_cast

/-- The comparison of significands decides whether two numbers are the same. -/
theorem sameDyadic_iff {a b d e : Int} :
    sameDyadic a d b e = true ↔ (a : ℚ) * 2 ^ d = b * 2 ^ e := by
  unfold sameDyadic
  split
  · rename_i h
    rw [beq_iff_eq, scaled_iff h]
  · rename_i h
    have hle : e ≤ d := by omega
    rw [beq_iff_eq, eq_comm, scaled_iff hle, eq_comm]

theorem eqv_iff {x y : Binary64} :
    x.eqv y = true ↔ ∃ m, x.magnitude? = some m ∧ y.magnitude? = some m := by
  cases x with
  | nan => simp [eqv, magnitude?]
  | infinite s =>
    cases y with
    | infinite t =>
      simp only [eqv, magnitude?, exists_common_iff, beq_iff_eq, Magnitude.infinite.injEq]
    | _ => simp [eqv, magnitude?]
  | finite s m d =>
    cases y with
    | finite t n e =>
      simp only [eqv, magnitude?, exists_common_iff, sameDyadic_iff, Magnitude.rational.injEq]
    | _ => simp [eqv, magnitude?]

theorem eqvInt_iff {x : Binary64} {n : Int} :
    x.eqvInt n = true ↔ x.magnitude? = some (.rational n) := by
  cases x with
  | nan => simp [eqvInt, magnitude?]
  | infinite s => simp [eqvInt, magnitude?]
  | finite s m d => simp [eqvInt, magnitude?, sameDyadic_iff]

end Binary64

namespace Value

/-- What a number is worth. -/
def Number.magnitude? : Number → Option Magnitude
  | .whole n => some (.rational n)
  | .double x => x.magnitude?

/-- Numbers are equal iff they are worth the same. -/
theorem Number.eqv_iff {a b : Number} :
    a.eqv b = true ↔ ∃ m, a.magnitude? = some m ∧ b.magnitude? = some m := by
  cases a with
  | whole m =>
    cases b with
    | whole n =>
      simp only [eqv, magnitude?, exists_common_iff, beq_iff_eq, Magnitude.rational.injEq,
        Int.cast_inj]
    | double y => simp [eqv, magnitude?, Binary64.eqvInt_iff]
  | double x =>
    cases b with
    | whole n => simp [eqv, magnitude?, Binary64.eqvInt_iff]
    | double y => exact Binary64.eqv_iff

end Value

/-! ## Values that are compared by content -/

/-- What a value stands for that is compared by content. -/
inductive Content where
  | truth (b : Bool)
  | number (m : Magnitude)
  | text (s : String)
  | day (d : Date)
  /-- A date-time without a zone, as written. -/
  | written (clock : Int)
  /-- An instant of universal time. -/
  | instant (micros : Int)
  /-- What the clock of a region shows while its offset hangs on the fold. -/
  | unsettled (region : Nat) (clock : Int)

/-- The kinds whose values are compared by content. -/
def Kind.hasContent : Kind → Bool
  | .boolean | .number | .string | .date => true
  | _ => false

/-! ## Date-times -/

namespace DateTime

/-- What a date-time stands for. -/
def content (t : DateTime) : Content :=
  match t.zone with
  | none => .written t.clock
  | some (.fixed _) => .instant t.instant
  | some (.region r) =>
    if t.isSettled then .instant t.instant else .unsettled r.id t.clock

/-- Whether regions with the same identity are one region in two date-times. -/
def ShareZones (t u : DateTime) : Prop :=
  ∀ r s, t.zone = some (.region r) → u.zone = some (.region s) → r.id = s.id → r = s

variable {t u : DateTime}

theorem content_ne_day (t : DateTime) (d : Date) : t.content ≠ .day d := by
  unfold content
  split <;> try split
  all_goals simp

theorem isSettled_of_fixed {offset : Int} (h : t.zone = some (.fixed offset)) :
    t.isSettled = true := by
  simp [isSettled, h, Zone.offset]

/-- Two times of one region that are settled are one instant iff the clock shows the same. -/
theorem clock_eq_iff {r : Region} (ht : t.zone = some (.region r)) (hu : u.zone = some (.region r))
    (hts : t.isSettled = true) (hus : u.isSettled = true) :
    t.clock = u.clock ↔ t.instant = u.instant := by
  have hoffset : ∀ {x : DateTime}, x.zone = some (.region r) → x.isSettled = true →
      r.offset x.clock false = r.offset x.clock true ∧
        x.instant = x.clock - r.offset x.clock false := by
    intro x hx hs
    have hfold : r.offset x.clock false = r.offset x.clock true := by
      simpa [isSettled, hx, Zone.offset] using hs
    refine ⟨hfold, ?_⟩
    rw [instant, offset, hx]
    cases x.fold <;> simp [Zone.offset, hfold]
  obtain ⟨hfold, hinstant⟩ := hoffset ht hts
  obtain ⟨hfold', hinstant'⟩ := hoffset hu hus
  rw [hinstant, hinstant']
  exact ⟨fun h => by rw [h], r.clock_unique _ _ hfold hfold'⟩

/-- What the clock of a region shows tells whether the offset is settled. -/
theorem isSettled_eq_of_clock {r : Region} (ht : t.zone = some (.region r))
    (hu : u.zone = some (.region r)) (h : t.clock = u.clock) : t.isSettled = u.isSettled := by
  simp [isSettled, ht, hu, Zone.offset, h]

/-- Two times of one region. -/
theorem clock_eq_iff_content {r : Region} (ht : t.zone = some (.region r))
    (hu : u.zone = some (.region r)) : t.clock = u.clock ↔ t.content = u.content := by
  have hsettled := isSettled_eq_of_clock ht hu
  have hinstant := clock_eq_iff ht hu
  rw [content, content, ht, hu]
  cases hts : t.isSettled with
  | true =>
    cases hus : u.isSettled with
    | true => simpa using hinstant hts hus
    | false => simpa [hts, hus] using hsettled
  | false =>
    cases hus : u.isSettled with
    | true => simpa [hts, hus] using hsettled
    | false => simp

/-- Two times of which at most one is of a given region. -/
theorem isSettled_iff_content {z y : Zone} (ht : t.zone = some z) (hu : u.zone = some y)
    (h : ∀ r s, z = .region r → y = .region s → r.id ≠ s.id) :
    (t.isSettled = true ∧ u.isSettled = true ∧ t.instant = u.instant) ↔
      t.content = u.content := by
  rw [content, content, ht, hu]
  cases z with
  | fixed o =>
    have hts := isSettled_of_fixed ht
    cases y with
    | fixed o' => simp [hts, isSettled_of_fixed hu]
    | region s => cases hus : u.isSettled <;> simp [hts]
  | region r =>
    cases y with
    | fixed o' => cases hts : t.isSettled <;> simp [isSettled_of_fixed hu]
    | region s =>
      have hid := h r s rfl rfl
      cases hts : t.isSettled <;> cases hus : u.isSettled <;> simp [hid]

/-- **Date-times are equal iff they stand for the same.** -/
theorem eqv_iff_content (h : t.ShareZones u) : t.eqv u = true ↔ t.content = u.content := by
  rw [eqv]
  cases ht : t.zone with
  | none =>
    cases hu : u.zone with
    | none => simp [content, ht, hu]
    | some y =>
      cases y with
      | fixed o => simp [content, ht, hu]
      | region s => cases hus : u.isSettled <;> simp [content, ht, hu, hus]
  | some z =>
    cases hu : u.zone with
    | none =>
      cases z with
      | fixed o => simp [content, ht, hu]
      | region r => cases hts : t.isSettled <;> simp [content, ht, hu, hts]
    | some y =>
      simp only
      split
      · rename_i hsame
        cases z <;> cases y <;> try cases hsame
        rename_i r s
        obtain rfl : r = s := h r s ht hu (by simpa [Zone.isSameRegion] using hsame)
        rw [beq_iff_eq]
        exact clock_eq_iff_content ht hu
      · rename_i hother
        rw [← isSettled_iff_content ht hu]
        · simp [and_assoc]
        · rintro r s rfl rfl hid
          simp [Zone.isSameRegion, hid] at hother

end DateTime

/-- New York, where the clocks went back from two to one on the first of November 2020. -/
def newYork : Region where
  id := 1
  key := "America/New_York"
  offset clock fold :=
    if clock < 63739875600000000 then -14400000000
    else if clock < 63739879200000000 ∧ fold = false then -14400000000
    else -18000000000
  clock_unique := by grind

/-- Half past one on that day. -/
def halfPastOne (fold : Bool) : DateTime :=
  ⟨⟨2020, 11, 1⟩, ⟨1, 30, 0, 0⟩, some (.region newYork), fold⟩

/-- The clock shows half past one twice, which is one time to it, and no instant. -/
example : (halfPastOne false).eqv (halfPastOne true) = true ∧
    (halfPastOne false).instant = (DateTime.ofOffset ⟨2020, 11, 1⟩ ⟨5, 30, 0, 0⟩ (some 0)).instant ∧
    (halfPastOne false).eqv (.ofOffset ⟨2020, 11, 1⟩ ⟨5, 30, 0, 0⟩ (some 0)) = false := by
  decide

namespace Value

/-- What a value stands for; nothing for what is not a number, and for values of other kinds. -/
def content? : Value → Option Content
  | .boolean b => some (.truth b)
  | .integer n => some (.number (.rational n))
  | .float _ x => x.magnitude?.map .number
  | .string s => some (.text s)
  | .date d => some (.day d)
  | .dateTime t => some t.content
  | _ => none

/-- Whether regions with the same identity are one region in two values, if they are date-times. -/
def ShareZones (v w : Value) : Prop :=
  ∀ t u, v = .dateTime t → w = .dateTime u → t.ShareZones u

variable {v w : Value}

theorem number_of_kind (h : v.kind = .number) :
    ∃ a, v.number? = some a ∧ v.content? = a.magnitude?.map .number ∧
      ∀ w, v.eqv w = w.number?.any a.eqv := by
  cases v with
  | integer n => exact ⟨.whole n, rfl, rfl, fun w => by rw [eqv]⟩
  | float id x => exact ⟨.double x, rfl, rfl, fun w => by rw [eqv]⟩
  | _ => cases h

theorem eqv_number_iff (hv : v.kind = .number) (hw : w.kind = .number) :
    v.eqv w = true ↔ ∃ c, v.content? = some c ∧ w.content? = some c := by
  obtain ⟨a, -, hac, heqv⟩ := number_of_kind hv
  obtain ⟨b, hb, hbc, -⟩ := number_of_kind hw
  rw [heqv, hb, Option.any_some, Number.eqv_iff, hac, hbc]
  simp only [Option.map_eq_some_iff]
  constructor
  · rintro ⟨m, ha, hb⟩
    exact ⟨.number m, ⟨m, ha, rfl⟩, m, hb, rfl⟩
  · rintro ⟨_, ⟨m, ha, rfl⟩, m', hb, hm⟩
    cases hm
    exact ⟨m, ha, hb⟩

theorem eqv_date_iff (hv : v.kind = .date) (hw : w.kind = .date) (h : v.ShareZones w) :
    v.eqv w = true ↔ ∃ c, v.content? = some c ∧ w.content? = some c := by
  cases v with
  | date d =>
    cases w with
    | date e =>
      simp only [eqv, content?, exists_common_iff, beq_iff_eq, Content.day.injEq]
    | dateTime u => simpa [eqv, content?, isObject] using u.content_ne_day d
    | _ => cases hw
  | dateTime t =>
    cases w with
    | date e => simpa [eqv, content?, isObject, eq_comm] using t.content_ne_day e
    | dateTime u =>
      rw [eqv, DateTime.eqv_iff_content (h t u rfl rfl)]
      simp only [content?, exists_common_iff]
    | _ => cases hw
  | _ => cases hv

/-- **Values of one kind with content are equal iff they stand for the same.** -/
theorem eqv_iff_content (hkind : v.kind = w.kind) (hv : v.kind.hasContent = true)
    (h : v.ShareZones w) : v.eqv w = true ↔ ∃ c, v.content? = some c ∧ w.content? = some c := by
  cases hk : v.kind with
  | boolean =>
    have hw : w.kind = .boolean := hkind.symm.trans hk
    cases v with
    | boolean b =>
      cases w with
      | boolean c => cases b <;> cases c <;> simp [eqv, number?, Number.eqv, content?]
      | _ => cases hw
    | _ => cases hk
  | number => exact eqv_number_iff hk (hkind.symm.trans hk)
  | string =>
    have hw : w.kind = .string := hkind.symm.trans hk
    cases v with
    | string s =>
      cases w with
      | string t => simp [eqv, isString, content?]
      | _ => cases hw
    | _ => cases hk
  | date => exact eqv_date_iff hk (hkind.symm.trans hk) h
  | _ =>
    rw [hk] at hv
    cases hv

/-! ## Values and themselves -/

theorem isObject_or_eqv_of_eqv (h : v.eqv w = true) : (v.isObject w || v.eqv w) = true := by
  rw [h, Bool.or_true]

theorem eqvElements_of_forall {xs ys : List Value} (hsub : ∀ x ∈ xs, x ∈ ys)
    (h : ∀ x ∈ xs, (x.isObject x || x.eqv x) = true) : eqvElements xs ys = true := by
  induction xs with
  | nil => rw [eqvElements]
  | cons x xs ih =>
    obtain ⟨hx, hxs⟩ := List.forall_mem_cons.1 h
    obtain ⟨hmem, hsub⟩ := List.forall_mem_cons.1 hsub
    rw [eqvElements, ih hsub hxs, Bool.and_true]
    exact List.any_eq_true.2 ⟨x, hmem, hx⟩

theorem isObject_sequence_self (form : SequenceForm) (id : Nat) (items : List Value) :
    (Value.sequence form id items).isObject (.sequence form id items) = true := by
  cases form with
  | list => simp [isObject]
  | tuple => cases items <;> simp [isObject]

mutual

/-- **Every value is the same object as itself, or equal to itself.** -/
theorem isObject_or_eqv_self : ∀ v : Value, (v.isObject v || v.eqv v) = true
  | .missing | .null | .boolean _ | .integer _ | .float _ _ | .string _ | .mapping _ _ _ | .date _
  | .bytes _ | .plain _ _ | .function _ _ | .observable _ _ | .faulty _ _ | .factory _ _
  | .callableSequence _ _ _ | .callableMapping _ _ _ | .library _ _ => by
    simp [isObject, eqv, kind, number?, Number.eqv, isString]
  | .sequence form id items => by rw [isObject_sequence_self, Bool.true_or]
  | .dateTime t => by
    apply isObject_or_eqv_of_eqv
    rw [eqv, DateTime.eqv_refl]
  | .time t => by
    apply isObject_or_eqv_of_eqv
    rw [eqv, ZonedTime.eqv_refl]
  | .set items => by
    have hitems : eqvElements items items = true :=
      eqvElements_of_forall (fun _ hx => hx) (isObject_or_eqv_members items)
    apply isObject_or_eqv_of_eqv
    rw [eqv, hitems, beq_self_eq_true, Bool.and_true]
  | .prebuilt type isOptional isNullable contents source => by
    apply isObject_or_eqv_of_eqv
    rw [eqv, isObject_or_eqv_self type, isObject_or_eqv_self isOptional,
      isObject_or_eqv_self isNullable, isObject_or_eqv_self contents, beq_self_eq_true]
    rfl

theorem isObject_or_eqv_members :
    ∀ items : List Value, ∀ x ∈ items, (x.isObject x || x.eqv x) = true
  | [] => fun _ h => absurd h List.not_mem_nil
  | x :: items => List.forall_mem_cons.2 ⟨isObject_or_eqv_self x, isObject_or_eqv_members items⟩

end

end Value

end DataShape
