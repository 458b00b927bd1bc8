/-
SqlAtlas.Proofs.NativeDescriptor.Built — the native descriptors that can be
built.

A descriptor starts out unsized and is changed by the setters. `Built` says
that a descriptor has come about this way, in any number of steps and in any
order. The type of descriptors holds more. A bounded length of zero can be
written down, and no sequence of setters leads to it (`Built.length_ne_zero`),
because `withLength` clears such a length. Nor does one lead to a scale without
a precision (`Built.scaled`). These two are all that is missing (`built_iff`).
-/
import SqlAtlas.NativeDescriptor

namespace SqlAtlas

/-! ## 1. Scales -/

namespace Sizing

variable {s : Sizing}

/-- A scale is stored beside a precision only. -/
def Scaled (s : Sizing) : Prop := s.scale.isSome = true → s.precision.isSome = true

/-- This is to say that what is stored is what a reader sees. -/
theorem scaled_iff : s.Scaled ↔ s.scale? = s.scale := by
  obtain ⟨length, precision, scale, unicode, fixed⟩ := s
  cases precision <;> cases scale <;> simp [Scaled, scale?]

theorem scaled_unsized (unicode : Bool) : (unsized unicode).Scaled := scaled_iff.mpr rfl

theorem scaled_setPrecision (s : Sizing) (precision : UInt16) :
    (s.setPrecision precision).Scaled := scaled_iff.mpr rfl

theorem scaled_setPrecisionScale (s : Sizing) (precision scale : UInt16) :
    (s.setPrecisionScale precision scale).Scaled := scaled_iff.mpr rfl

/-- **Such sizes can be set**: the flags and the length in one step each, then
the precision with the scale or without it. -/
theorem Scaled.reached (h : s.Scaled) {P : Sizing → Prop} {unicode : Bool}
    (hunsized : P (unsized unicode))
    (hunicode : ∀ z unicode, P z → P { z with unicode := unicode })
    (hfixed : ∀ z fixed, P z → P { z with fixed := fixed })
    (hlength : ∀ z length, s.length = some length → P z → P { z with length := some length })
    (hprecision : ∀ z precision, P z → P (z.setPrecision precision))
    (hdigits : ∀ z precision scale, P z → P (z.setPrecisionScale precision scale)) : P s := by
  obtain ⟨length, precision, scale, unicode, fixed⟩ := s
  have hflags : P ⟨none, none, none, unicode, fixed⟩ := hfixed _ fixed (hunicode _ unicode hunsized)
  have hwidth : P ⟨length, none, none, unicode, fixed⟩ := by
    cases length with
    | none => exact hflags
    | some length => exact hlength _ length rfl hflags
  cases precision with
  | some precision =>
      cases scale with
      | none => exact hprecision _ precision hwidth
      | some scale => exact hdigits _ precision scale hwidth
  | none =>
      cases scale with
      | none => exact hwidth
      | some scale => exact absurd (h rfl) Bool.false_ne_true

end Sizing

namespace NativeDescriptor

/-! ## 2. Descriptors -/

/-- A descriptor that the setters lead to from an unsized one. -/
inductive Built : NativeDescriptor → Prop
  | ofType (type : NativeType) : Built (.ofType type)
  | withType {d : NativeDescriptor} (h : Built d) (type : NativeType) : Built (d.withType type)
  | withLength {d : NativeDescriptor} (h : Built d) (length : Length) :
      Built (d.withLength length)
  | withPrecision {d : NativeDescriptor} (h : Built d) (precision : UInt16) :
      Built (d.withPrecision precision)
  | withPrecisionScale {d : NativeDescriptor} (h : Built d) (precision scale : UInt16) :
      Built (d.withPrecisionScale precision scale)
  | withUnicode {d : NativeDescriptor} (h : Built d) (unicode : Bool) :
      Built (d.withUnicode unicode)
  | withFixed {d : NativeDescriptor} (h : Built d) (fixed : Bool) : Built (d.withFixed fixed)

/-- The widest length is set like any other. -/
theorem Built.withMaxLength {d : NativeDescriptor} (h : d.Built) : d.withMaxLength.Built :=
  h.withLength .max

/-- A length that is kept as a size is not zero. -/
theorem usable?_ne_zero (length : Length) : usable? length ≠ some (.bounded 0) := by
  cases length with
  | max => simp [usable?]
  | bounded width =>
      by_cases h : width = 0
      · simp [usable?, h]
      · simp [usable?, h]

/-- Any other length is kept. -/
theorem usable?_of_ne_zero {length : Length} (h : length ≠ .bounded 0) :
    usable? length = some length := by
  cases length with
  | max => rfl
  | bounded width =>
      have hw : width ≠ 0 := fun h0 => h (by rw [h0])
      rw [usable?, if_neg hw]

/-- No descriptor that can be built has the bounded length zero. -/
theorem Built.length_ne_zero {d : NativeDescriptor} (h : d.Built) :
    d.length ≠ some (.bounded 0) := by
  induction h with
  | ofType type => simp [NativeDescriptor.ofType, Sizing.unsized]
  | withType _ type ih => exact ih
  | withLength _ length _ => exact usable?_ne_zero length
  | withPrecision _ precision ih => exact ih
  | withPrecisionScale _ precision scale ih => exact ih
  | withUnicode _ unicode ih => exact ih
  | withFixed _ fixed ih => exact ih

theorem Built.scaled {d : NativeDescriptor} (h : d.Built) : d.Scaled := by
  induction h with
  | ofType type => exact Sizing.scaled_unsized true
  | withType _ type ih => exact ih
  | withLength _ length ih => exact ih
  | withPrecision _ precision _ => exact Sizing.scaled_setPrecision _ precision
  | withPrecisionScale _ precision scale _ => exact Sizing.scaled_setPrecisionScale _ precision scale
  | withUnicode _ unicode ih => exact ih
  | withFixed _ fixed ih => exact ih

/-- Sizes that the setters lead to. -/
structure Sound (d : NativeDescriptor) : Prop where
  length : d.length ≠ some (.bounded 0)
  scaled : d.Scaled

/-- **What can be built, seen from its sizes.** -/
theorem built_iff {d : NativeDescriptor} : d.Built ↔ d.Sound := by
  refine ⟨fun h => ⟨h.length_ne_zero, h.scaled⟩, fun h => ?_⟩
  obtain ⟨sizes, type⟩ := d
  refine h.scaled.reached (P := fun z => Built ⟨z, type⟩) (.ofType type)
    (fun _ unicode hz => hz.withUnicode unicode) (fun _ fixed hz => hz.withFixed fixed) ?_
    (fun _ precision hz => hz.withPrecision precision)
    (fun _ precision scale hz => hz.withPrecisionScale precision scale)
  intro z length hlength hz
  have hne : length ≠ .bounded 0 := fun h0 => h.length (by rw [← h0]; exact hlength)
  have hset := hz.withLength length
  rwa [NativeDescriptor.withLength, usable?_of_ne_zero hne] at hset

end NativeDescriptor

end SqlAtlas
