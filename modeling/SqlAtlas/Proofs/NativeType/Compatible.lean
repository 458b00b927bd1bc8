/-
SqlAtlas.Proofs.NativeType.Compatible — surviving a trip is a preorder.

`compatible` looks through nullables and recurses on the first type alone.
`Widens` is the same relation said once and for all on types without nullables:
every type widens to itself, scalars widen, arrays widen element by element, an
enumeration becomes text and a geometry loses its shape. `compatible_iff` ties the
two together, with `bare` in between, which takes the nullables off wherever
`compatible` looks through them: at the top and at every array element.

What is true of `Widens` is then shown on derivations. A scalar that widens twice
has widened once and none widens to another and back, so `Widens` is a partial
order, and `compatible` is a preorder whose kernel is equality of bare types
(`compatible_preorder`).
-/
import SqlAtlas.NativeType

namespace SqlAtlas

/-! ## 1. Scalars -/

namespace Primitive

theorem mem_all (p : Primitive) : p ∈ all := by
  cases p <;> decide

theorem rangeWithin_iff {p q : Primitive} : rangeWithin p q = true ↔
    ∃ r s, p.integerRange? = some r ∧ q.integerRange? = some s ∧ s.1 ≤ r.1 ∧ r.2 ≤ s.2 := by
  rw [rangeWithin]
  cases p.integerRange? <;> cases q.integerRange? <;> simp

theorem rangeWithin_trans {p q r : Primitive} (h : rangeWithin p q = true)
    (h' : rangeWithin q r = true) : rangeWithin p r = true := by
  obtain ⟨a, b, hp, hq, hlow, hhigh⟩ := rangeWithin_iff.mp h
  obtain ⟨b', c, hq', hr, hlow', hhigh'⟩ := rangeWithin_iff.mp h'
  cases hq.symm.trans hq'
  exact rangeWithin_iff.mpr ⟨a, c, hp, hr, Int.le_trans hlow' hlow, Int.le_trans hhigh hhigh'⟩

/-- Ranges within each other are one range, and no two integer types share it. -/
theorem rangeWithin_antisymm {p q : Primitive} (h : rangeWithin p q = true)
    (h' : rangeWithin q p = true) : p = q := by
  have hone : ∀ p ∈ all, ∀ q ∈ all, p.integerRange? = q.integerRange? →
      p.integerRange?.isSome = true → p = q := by decide +kernel
  obtain ⟨a, b, hp, hq, hlow, hhigh⟩ := rangeWithin_iff.mp h
  obtain ⟨b', a', hq', hp', hlow', hhigh'⟩ := rangeWithin_iff.mp h'
  cases hp.symm.trans hp'
  cases hq.symm.trans hq'
  have hab : a = b := Prod.ext (Int.le_antisymm hlow' hlow) (Int.le_antisymm hhigh hhigh')
  rw [← hab] at hq
  exact hone p (mem_all p) q (mem_all q) (hp.trans hq.symm) (Option.isSome_of_eq_some hp)

/-- The widenings that are listed do not concern integers. -/
theorem integerRange?_of_otherWidening {p q : Primitive} (h : otherWidening p q = true) :
    p.integerRange? = none ∧ q.integerRange? = none := by
  have hall : ∀ p ∈ all, ∀ q ∈ all, otherWidening p q = true →
      p.integerRange? = none ∧ q.integerRange? = none := by decide +kernel
  exact hall p (mem_all p) q (mem_all q) h

/-- Two widenings of the list are one. -/
theorem otherWidening_trans {p q r : Primitive} (h : otherWidening p q = true)
    (h' : otherWidening q r = true) : otherWidening p r = true := by
  have hall : ∀ p ∈ all, ∀ q ∈ all, otherWidening p q = true →
      ∀ r ∈ all, otherWidening q r = true → otherWidening p r = true := by decide +kernel
  exact hall p (mem_all p) q (mem_all q) h r (mem_all r) h'

/-- None of them has a way back. -/
theorem otherWidening_asymm {p q : Primitive} (h : otherWidening p q = true) :
    otherWidening q p = false := by
  have hall : ∀ p ∈ all, ∀ q ∈ all, otherWidening p q = true → otherWidening q p = false := by
    decide +kernel
  exact hall p (mem_all p) q (mem_all q) h

/-- An integer type widens into the decimal numbers and by its range. -/
theorem widensTo_of_range {p q : Primitive} {r : Int × Int} (hp : p.integerRange? = some r) :
    p.widensTo q = true ↔ q = decimal ∨ rangeWithin p q = true := by
  have hself : rangeWithin p p = true :=
    rangeWithin_iff.mpr ⟨r, r, hp, hp, Int.le_refl _, Int.le_refl _⟩
  constructor
  · intro h
    simp only [widensTo, Bool.or_eq_true, Bool.and_eq_true, decide_eq_true_eq] at h
    rcases h with ((rfl | ⟨-, h⟩) | h) | h
    · exact .inr hself
    · exact .inl h
    · exact .inr h
    · rw [(integerRange?_of_otherWidening h).1] at hp
      cases hp
  · rintro (rfl | h)
    · simp [widensTo, hp]
    · simp [widensTo, h]

/-- Any other scalar widens by the list. -/
theorem widensTo_of_noRange {p q : Primitive} (hp : p.integerRange? = none) :
    p.widensTo q = true ↔ p = q ∨ otherWidening p q = true := by
  have hrange : rangeWithin p q = false := by rw [rangeWithin, hp]
  simp [widensTo, hp, hrange]

theorem widensTo_refl (p : Primitive) : p.widensTo p = true := by
  simp [widensTo]

/-- Only the decimal numbers hold all decimal numbers. -/
theorem eq_of_decimal_widensTo {q : Primitive} (h : decimal.widensTo q = true) : q = decimal := by
  have hall : ∀ q ∈ all, decimal.widensTo q = true → q = decimal := by decide +kernel
  exact hall q (mem_all q) h

/-- **What widens twice has widened.** -/
theorem widensTo_trans {p q r : Primitive} (h : p.widensTo q = true) (h' : q.widensTo r = true) :
    p.widensTo r = true := by
  cases hp : p.integerRange? with
  | none =>
      rcases (widensTo_of_noRange hp).mp h with rfl | hpq
      · exact h'
      · rcases (widensTo_of_noRange (integerRange?_of_otherWidening hpq).2).mp h' with rfl | hqr
        · exact h
        · exact (widensTo_of_noRange hp).mpr (.inr (otherWidening_trans hpq hqr))
  | some a =>
      rcases (widensTo_of_range hp).mp h with rfl | hpq
      · rwa [eq_of_decimal_widensTo h']
      · obtain ⟨-, b, -, hq, -⟩ := rangeWithin_iff.mp hpq
        rcases (widensTo_of_range hq).mp h' with hr | hqr
        · exact (widensTo_of_range hp).mpr (.inl hr)
        · exact (widensTo_of_range hp).mpr (.inr (rangeWithin_trans hpq hqr))

/-- **No scalar widens to another and back.** -/
theorem widensTo_antisymm {p q : Primitive} (h : p.widensTo q = true) (h' : q.widensTo p = true) :
    p = q := by
  cases hp : p.integerRange? with
  | none =>
      rcases (widensTo_of_noRange hp).mp h with rfl | hpq
      · rfl
      · rcases (widensTo_of_noRange (integerRange?_of_otherWidening hpq).2).mp h' with rfl | hqp
        · rfl
        · rw [otherWidening_asymm hpq] at hqp
          cases hqp
  | some a =>
      rcases (widensTo_of_range hp).mp h with rfl | hpq
      · exact eq_of_decimal_widensTo h'
      · obtain ⟨-, b, -, hq, -⟩ := rangeWithin_iff.mp hpq
        rcases (widensTo_of_range hq).mp h' with rfl | hqp
        · exact (eq_of_decimal_widensTo h).symm
        · exact rangeWithin_antisymm hpq hqp

end Primitive

/-! ## 2. Types without nullables -/

namespace NativeType

/-- The type without nullables at the top and at every array element. Those in
the arguments of generic types stay. -/
def bare : NativeType → NativeType
  | nullable t => t.bare
  | array t rank => array t.bare rank
  | primitive kind => primitive kind
  | generic scope? name arguments => generic scope? name arguments
  | enum name members => enum name members
  | json => json
  | geometry shape? => geometry shape?
  | named name => named name

/-- What a type without nullables widens to. -/
inductive Widens : NativeType → NativeType → Prop
  | refl (t : NativeType) : Widens t t
  | primitive {p q : Primitive} (h : p.widensTo q = true) : Widens (.primitive p) (.primitive q)
  | array {t u : NativeType} {rank : Nat} (h : Widens t u) : Widens (.array t rank) (.array u rank)
  | enum (name : String) (members : List String) :
      Widens (.enum name members) (.primitive .string)
  | geometry (shape? : Option Geometry) : Widens (.geometry shape?) (.geometry none)

namespace Widens

variable {v : NativeType}

theorem primitive_iff {p : Primitive} :
    Widens (.primitive p) v ↔ ∃ q, v = .primitive q ∧ p.widensTo q = true := by
  constructor
  · intro h
    cases h with
    | refl => exact ⟨p, rfl, Primitive.widensTo_refl p⟩
    | primitive h => exact ⟨_, rfl, h⟩
  · rintro ⟨q, rfl, h⟩
    exact .primitive h

theorem array_iff {t : NativeType} {rank : Nat} :
    Widens (.array t rank) v ↔ ∃ u, v = .array u rank ∧ Widens t u := by
  constructor
  · intro h
    cases h with
    | refl => exact ⟨t, rfl, .refl t⟩
    | array h => exact ⟨_, rfl, h⟩
  · rintro ⟨u, rfl, h⟩
    exact .array h

theorem enum_iff {name : String} {members : List String} :
    Widens (.enum name members) v ↔ v = .primitive .string ∨ v = .enum name members := by
  constructor
  · intro h
    cases h with
    | refl => exact .inr rfl
    | enum => exact .inl rfl
  · rintro (rfl | rfl)
    · exact .enum name members
    · exact .refl _

theorem geometry_iff {shape? : Option Geometry} :
    Widens (.geometry shape?) v ↔ v = .geometry none ∨ v = .geometry shape? := by
  constructor
  · intro h
    cases h with
    | refl => exact .inr rfl
    | geometry => exact .inl rfl
  · rintro (rfl | rfl)
    · exact .geometry shape?
    · exact .refl _

/-- The other types widen to themselves alone. -/
theorem generic_iff {scope? : Option String} {name : String} {arguments : List NativeType} :
    Widens (.generic scope? name arguments) v ↔ v = .generic scope? name arguments :=
  ⟨fun h => by cases h; rfl, fun h => h ▸ .refl _⟩

theorem json_iff : Widens .json v ↔ v = .json := ⟨fun h => by cases h; rfl, fun h => h ▸ .refl _⟩

theorem named_iff {name : String} : Widens (.named name) v ↔ v = .named name :=
  ⟨fun h => by cases h; rfl, fun h => h ▸ .refl _⟩

/-- Each way to widen goes on from what the others arrive at. -/
theorem trans {t u v : NativeType} (h : Widens t u) (h' : Widens u v) : Widens t v := by
  induction h generalizing v with
  | refl => exact h'
  | primitive h =>
      cases h' with
      | refl => exact .primitive h
      | primitive h' => exact .primitive (Primitive.widensTo_trans h h')
  | array h ih =>
      cases h' with
      | refl => exact .array h
      | array h' => exact .array (ih h')
  | enum name members =>
      cases h' with
      | refl => exact .enum name members
      | primitive h' =>
          have hall : ∀ q ∈ Primitive.all, Primitive.widensTo .string q = true → q = .string := by
            decide +kernel
          rw [hall _ (Primitive.mem_all _) h']
          exact .enum name members
  | geometry shape? =>
      cases h' with
      | refl => exact .geometry shape?
      | geometry => exact .geometry shape?

/-- What widens to another type and back is that type. -/
theorem antisymm {t u : NativeType} (h : Widens t u) (h' : Widens u t) : t = u := by
  induction h with
  | refl => rfl
  | primitive h =>
      cases h' with
      | refl => rfl
      | primitive h' => rw [Primitive.widensTo_antisymm h h']
  | array h ih =>
      cases h' with
      | refl => rfl
      | array h' => rw [ih h']
  | enum => cases h'
  | geometry => cases h' <;> rfl

end Widens

/-! ## 3. Compatible types -/

section

variable {x : NativeType} (hx : ∀ v rank, x ≠ array v rank)

include hx

/-- Away from arrays, `bare` takes off no more than the nullables at the top. -/
theorem bare_eq_iff : ∀ u : NativeType, u.bare = x ↔ u.stripNullable = x
  | nullable u => bare_eq_iff u
  | array v rank =>
      ⟨fun h => absurd h.symm (hx v.bare rank), fun h => absurd h.symm (hx v rank)⟩
  | primitive _ | generic _ _ _ | enum _ _ | json | geometry _ | named _ => Iff.rfl

end

theorem bare_eq_array_iff {w : NativeType} {rank : Nat} : ∀ u : NativeType,
    u.bare = array w rank ↔ ∃ v, u.stripNullable = array v rank ∧ v.bare = w
  | nullable u => bare_eq_array_iff u
  | array v n => by
      rw [bare, stripNullable, array.injEq]
      constructor
      · rintro ⟨hv, rfl⟩
        exact ⟨v, rfl, hv⟩
      · rintro ⟨v', heq, hv⟩
        cases heq
        exact ⟨hv, rfl⟩
      · rintro w ⟨⟩
  | primitive _ | generic _ _ _ | enum _ _ | json | geometry _ | named _ => by
      constructor
      · rintro ⟨⟩
      · rintro ⟨v, ⟨⟩, -⟩

/-- **Types are compatible when their bare types widen.** -/
theorem compatible_iff {u : NativeType} : ∀ {t : NativeType},
    compatible t u = true ↔ Widens t.bare u.bare
  | nullable t => compatible_iff (t := t)
  | primitive p => by
      rw [bare, Widens.primitive_iff, compatible]
      simp only [bare_eq_iff (x := .primitive _) (by simp)]
      cases u.stripNullable <;> simp
  | array t rank => by
      have ih : ∀ v, compatible t v = true ↔ Widens t.bare v.bare := fun v => compatible_iff
      rw [bare, Widens.array_iff, compatible]
      constructor
      · intro h
        split at h
        · rename_i v n hv
          simp only [Bool.and_eq_true, decide_eq_true_eq] at h
          obtain ⟨rfl, hc⟩ := h
          exact ⟨v.bare, (bare_eq_array_iff u).mpr ⟨v, hv, rfl⟩, (ih v).mp hc⟩
        · cases h
      · rintro ⟨w, hw, h⟩
        obtain ⟨v, hv, rfl⟩ := (bare_eq_array_iff u).mp hw
        rw [hv]
        simp [(ih v).mpr h]
  | enum name members => by
      rw [bare, Widens.enum_iff, compatible, bare_eq_iff (by simp), bare_eq_iff (by simp)]
      simp
  | geometry shape? => by
      rw [bare, Widens.geometry_iff, compatible, bare_eq_iff (by simp), bare_eq_iff (by simp)]
      simp
  | generic scope? name arguments => by
      rw [bare, Widens.generic_iff, compatible, bare_eq_iff (by simp)]
      simp
  | json => by
      rw [bare, Widens.json_iff, compatible, bare_eq_iff (by simp)]
      simp
  | named name => by
      rw [bare, Widens.named_iff, compatible, bare_eq_iff (by simp)]
      simp

/-- **Surviving a trip is a preorder.** Every type survives in itself, what survives
two trips survives both as one, and two types survive in each other exactly when
they differ in nullables at the top and at array elements only. -/
theorem compatible_preorder :
    (∀ t, compatible t t = true)
      ∧ (∀ t u v, compatible t u = true → compatible u v = true → compatible t v = true)
      ∧ ∀ t u, compatible t u = true ∧ compatible u t = true ↔ t.bare = u.bare := by
  simp only [compatible_iff]
  refine ⟨fun t => .refl t.bare, fun t u v => Widens.trans, fun t u => ⟨fun h => ?_, fun h => ?_⟩⟩
  · exact h.1.antisymm h.2
  · rw [h]
    exact ⟨.refl u.bare, .refl u.bare⟩

/-- A matrix with nullable elements on its way to decimal numbers. Its nullables
are not asked for, but one in the argument of a list is. -/
theorem compatible_preorder_nullableMatrix :
    compatible (.nullable (.array (.nullable (.primitive .uint8)) 2))
        (.array (.nullable (.primitive .decimal)) 2) = true
      ∧ compatible (.array (.nullable (.primitive .uint8)) 2)
        (.nullable (.array (.primitive .uint8) 2)) = true
      ∧ ¬ (compatible (.listOf (.nullable .json)) (.listOf .json) = true
        ∧ compatible (.listOf .json) (.listOf (.nullable .json)) = true) := by
  obtain ⟨-, htrans, hkernel⟩ := compatible_preorder
  refine ⟨htrans _ (.array (.primitive .int16) 2) _ (by decide) (by decide), ?_, ?_⟩
  · exact ((hkernel _ _).mpr rfl).1
  · rw [hkernel]
    decide

end NativeType

end SqlAtlas
