/-
SqlAtlas.Proofs.TypeMap.Widths — no column is narrower than what is asked for.

Text, enumerations and byte buffers ask for a width (`Asks`), and each dialect
makes columns of theirs in rows of its own: fixed, variable and unlimited, with
limits between them. What all of these rows do is `within`: up to one limit a
width is kept as it is, and above it the column is the widest. The limit depends
on the dialect, on whether the column holds text or bytes, and on whether text is
unicode, and on nothing else. So widths are never cut off, and a column that is
the widest stays so when more is asked for.

Widths are numbers, with the widest above all of them.
-/
import Mathlib
import SqlAtlas.Proofs.TypeMap.Towers

namespace SqlAtlas

/-- A length as a number. The widest form is above all others. -/
def Length.size : Length → ℕ∞
  | bounded width => width.toNat
  | max => ⊤

theorem Length.size_eq_top_iff {length : Length} : length.size = ⊤ ↔ length = .max := by
  cases length with
  | bounded width => exact iff_of_false (ENat.natCast_ne_top _) (fun h => by cases h)
  | max => exact iff_of_true rfl rfl

namespace TypeMap

open NativeType (longestMember)

/-! ## 1. Limits -/

/-- A width up to the limit is kept, and a wider one is the widest. -/
def within (limit : Nat) (size : ℕ∞) : ℕ∞ := if size ≤ limit then size else ⊤

theorem within_cases (limit : Nat) (size : ℕ∞) : within limit size = size ∨ within limit size = ⊤ := by
  rw [within]
  split
  · exact .inl rfl
  · exact .inr rfl

theorem within_top (limit : Nat) : within limit ⊤ = ⊤ := by
  rw [within, ite_self]

/-- Once the widest is taken, it is taken for every greater width. -/
theorem within_eq_top {limit : Nat} {size size' : ℕ∞} (h : within limit size = ⊤)
    (hle : size ≤ size') : within limit size' = ⊤ := by
  by_cases hlimit : size' ≤ limit
  · rw [within, if_pos (hle.trans hlimit)] at h
    rw [within, if_pos hlimit]
    exact top_le_iff.mp (h ▸ hle)
  · rw [within, if_neg hlimit]

/-- What the columns hold that are asked for a width. -/
inductive Content where
  | text
  | bytes
  deriving DecidableEq, Repr

/-- The greatest width short of the widest form. -/
def limit : Dialect → Content → Bool → Nat
  | .sqlServer, .text, unicode => (SqlServer.textLimit unicode).toNat
  | .mySql, .text, _ => MySql.textLimit.toNat
  | .postgreSql, .text, _ => PostgreSql.textLimit.toNat
  | .sqlite, .text, _ => Length.greatestWidth
  | .sqlServer, .bytes, _ => SqlServer.byteLimit.toNat
  | .mySql, .bytes, _ => MySql.binaryLimit.toNat
  | .postgreSql, .bytes, _ => 0
  | .sqlite, .bytes, _ => 0

/-- The column has the width that is asked for, within the limit. -/
def HasWidth (dialect : Dialect) (content : Content) (unicode : Bool) (size : ℕ∞) (s : SqlType) :
    Prop :=
  ∃ own, s.length = some own ∧ own.size = within (limit dialect content unicode) size

section

variable {dialect : Dialect} {content : Content} {unicode : Bool} {s : SqlType}

theorem HasWidth.widest (h : s.length = some .max) :
    HasWidth dialect content unicode ⊤ s := ⟨.max, h, (within_top _).symm⟩

theorem HasWidth.kept {width : UInt32} (h : s.length = some (.bounded width))
    (hw : width.toNat ≤ limit dialect content unicode) :
    HasWidth dialect content unicode (Length.bounded width).size s :=
  ⟨_, h, (if_pos (ENat.natCast_le_natCast.mpr hw)).symm⟩

theorem HasWidth.raised {width : UInt32} (h : s.length = some .max)
    (hw : limit dialect content unicode < width.toNat) :
    HasWidth dialect content unicode (Length.bounded width).size s :=
  ⟨_, h, (if_neg (not_le.mpr (ENat.natCast_lt_natCast.mpr hw))).symm⟩

/-- The row of a dialect that compares the width with the limit. -/
theorem HasWidth.ite {width most : UInt32} {t : SqlType}
    (hmost : most.toNat = limit dialect content unicode)
    (hs : s.length = some (.bounded width)) (ht : t.length = some .max) :
    HasWidth dialect content unicode (Length.bounded width).size
      (if width ≤ most then s else t) := by
  by_cases h : width ≤ most
  · rw [if_pos h]
    exact .kept hs (Nat.le_trans h (Nat.le_of_eq hmost))
  · rw [if_neg h]
    exact .raised ht (hmost ▸ Nat.not_le.mp h)

end

/-! ## 2. Columns -/

/-- The rows of fixed length in MySQL end below the limit of the others. -/
theorem mySql_kept {content : Content} {unicode fixed : Bool} {width : UInt32} {s : SqlType}
    (h : s.length = some (.bounded width)) (hw : (fixed && width ≤ MySql.fixedLimit) = true) :
    HasWidth .mySql content unicode (Length.bounded width).size s := by
  have hshort : width ≤ MySql.fixedLimit := of_decide_eq_true ((Bool.and_eq_true _ _).mp hw).2
  have hlimits : MySql.fixedLimit.toNat ≤ limit .mySql content unicode := by
    cases content <;> decide +revert
  exact .kept h (Nat.le_trans hshort hlimits)

theorem text_hasWidth (dialect : Dialect) (length : Length) (unicode fixed : Bool) :
    HasWidth dialect .text unicode length.size (text dialect length unicode fixed) := by
  cases length with
  | max => exact .widest (text_max dialect unicode fixed)
  | bounded width =>
      cases dialect with
      | sqlServer => exact .ite rfl rfl rfl
      | mySql =>
          simp only [text, MySql.text]
          split
          · exact mySql_kept rfl ‹_›
          · exact .ite rfl rfl rfl
      | postgreSql => exact .ite rfl rfl rfl
      | sqlite => exact .kept rfl (Nat.le_sub_one_of_lt width.toNat_lt)

theorem binary_hasWidth (dialect : Dialect) {d : NativeDescriptor} {length : Length}
    (hlength : d.length = some length) (h0 : length ≠ .bounded 0) (unicode : Bool) :
    HasWidth dialect .bytes unicode length.size (binary dialect d) := by
  have hpositive : ∀ width, length = .bounded width → 0 < width.toNat := by
    rintro width rfl
    exact Nat.pos_of_ne_zero (fun h => h0 (congrArg _ (UInt32.toNat_inj.mp h)))
  cases length with
  | max =>
      refine .widest ?_
      cases dialect <;> simp only [binary, SqlServer.binary, MySql.binary, hlength] <;> rfl
  | bounded width =>
      cases dialect with
      | sqlServer =>
          simp only [binary, SqlServer.binary, hlength]
          exact .ite rfl rfl rfl
      | mySql =>
          simp only [binary, MySql.binary, hlength]
          split
          · exact mySql_kept rfl ‹_›
          · exact .ite rfl rfl rfl
      | postgreSql | sqlite => exact .raised rfl (hpositive width rfl)

theorem size_bounded_max (a b : UInt32) : (Length.bounded (max a b)).size
    = max (Length.bounded a).size (Length.bounded b).size := by
  rw [show max a b = if a ≤ b then b else a from rfl]
  split
  · exact (max_eq_right (ENat.natCast_le_natCast.mpr ‹a ≤ b›)).symm
  · exact (max_eq_left (ENat.natCast_le_natCast.mpr (Nat.le_of_not_le ‹¬ a ≤ b›))).symm

/-- The length of an enumeration column is the greater of what is asked for and
the longest member. -/
theorem size_enumLength {members : List String} (h : longestMember members ≤ Length.greatestWidth)
    (hint : Option Length) :
    (enumLength members hint).size
      = max (hint.getD (.bounded defaultEnumWidth)).size (longestMember members) := by
  have hmembers : (Length.bounded (widthOf (longestMember members))).size
      = longestMember members := by
    rw [Length.size, widthOf, Nat.min_eq_left h,
      UInt32.toNat_ofNat_of_lt' (Nat.lt_of_le_sub_one (by decide) h)]
  match hint with
  | none => exact (size_bounded_max _ _).trans (by rw [hmembers]; rfl)
  | some (.bounded width) => exact (size_bounded_max _ _).trans (by rw [hmembers]; rfl)
  | some .max => exact (max_eq_left le_top).symm

/-- An array has the width of its elements. -/
theorem array_hasWidth {d : NativeDescriptor} {leaf : ArrayLeaf} {dimensions : Nat}
    {content : Content} {size : ℕ∞}
    (h : HasWidth .postgreSql content d.unicode size (PostgreSql.element leaf d)) :
    HasWidth .postgreSql content d.unicode size (PostgreSql.array leaf dimensions d) := h

/-! ## 3. What is asked for -/

/-- The width that a descriptor asks for, in columns of text or of bytes. Text and
enumerations ask for one in any case, byte buffers and arrays only by a hint.
PostgreSQL alone has arrays of either. Soundly built arrays have no rank zero; with
no other ranks above them, byte buffers would be read as one level more. -/
inductive Asks (dialect : Dialect) (d : NativeDescriptor) : Content → ℕ∞ → Prop
  | string (ht : d.type.stripNullable = .primitive .string) :
      Asks dialect d .text (d.length.getD (.bounded 255)).size
  | enum {name : String} {members : List String} (ht : d.type.stripNullable = .enum name members)
      (hm : longestMember members ≤ Length.greatestWidth) :
      Asks dialect d .text (max (d.length.getD (.bounded 128)).size (longestMember members))
  | bytes {hint : Length} (ht : d.type.stripNullable = .bytes) (hl : d.length = some hint) :
      Asks dialect d .bytes hint.size
  | textArray {t : NativeType} {rank : Nat} {hint : Length} (hd : dialect = .postgreSql)
      (ht : d.type.stripNullable = .array t rank) (hleaf : leaf? d.type = some (.primitive .string))
      (hl : d.length = some hint) : Asks dialect d .text hint.size
  | bytesArray {t : NativeType} {rank : Nat} {hint : Length} (hd : dialect = .postgreSql)
      (ht : d.type.stripNullable = .array t rank) (hleaf : leaf? d.type = some .bytes)
      (hlevel : 0 < (ranks d.type).sum) (hl : d.length = some hint) : Asks dialect d .bytes hint.size

/-- **Every column that is asked for a width has it within its limit.** -/
theorem Asks.exists_hasWidth {dialect : Dialect} {d : NativeDescriptor} {content : Content}
    {size : ℕ∞} (h : Asks dialect d content size) (hd : d.Built) :
    ∃ s, forward dialect d = some s ∧ HasWidth dialect content d.unicode size s := by
  have hzero : ∀ {hint : Length}, d.length = some hint → hint ≠ .bounded 0 :=
    fun hl h0 => hd.length_ne_zero (h0 ▸ hl)
  have hstripped : d.stripNullable.type = d.type.stripNullable := rfl
  cases h with
  | string ht =>
      refine ⟨text dialect (textLength d) d.unicode d.fixed, ?_, text_hasWidth dialect _ _ _⟩
      rw [forward, ofStripped, hstripped, ht]
      exact congrArg some (primitive_string dialect d.stripNullable)
  | enum ht hm =>
      refine ⟨text dialect _ d.unicode false, ?_,
        size_enumLength hm d.length ▸ text_hasWidth dialect (enumLength _ d.length) d.unicode false⟩
      rw [forward, ofStripped, hstripped, ht]
      rfl
  | bytes ht hl =>
      refine ⟨binary dialect (d.withType .bytes), ?_,
        binary_hasWidth dialect (d := d.withType .bytes) hl (hzero hl) d.unicode⟩
      rw [forward, NativeDescriptor.stripNullable, ht]
      exact forward_bytes dialect d.toSizing
  | textArray hpostgres ht hleaf hl =>
      subst hpostgres
      refine ⟨_, forward_of_leaf? ht hleaf (.inr (fun h => by cases h)), array_hasWidth ?_⟩
      rw [NativeDescriptor.stripNullable, element_withType, element_string, hl]
      exact text_hasWidth .postgreSql _ _ _
  | bytesArray hpostgres ht hleaf hlevel hl =>
      subst hpostgres
      exact ⟨_, forward_of_leaf? ht hleaf (.inl hlevel),
        array_hasWidth (binary_hasWidth .postgreSql hl (hzero hl) d.unicode)⟩

/-! ## 4. Widths in names -/

/-- A width of a column is written behind its base name, in front of its
dimensions. -/
theorem name_of_width {dialect : Dialect} {d : NativeDescriptor} (hd : d.Built) {s : SqlType}
    (h : forward dialect d = some s) {width : UInt32} (hw : s.length = some (.bounded width)) :
    ∃ k, s.name.toList = s.baseName.toList ++ ('(' :: (toString width.toNat).toList ++ [')'])
      ++ (List.replicate k ['[', ']']).flatten := by
  rcases exists_showsSizes_of_forward hd h with ⟨k, hs⟩ | ⟨_, _, rfl⟩ | ⟨g, _, _, rfl⟩
  · refine ⟨k, ?_⟩
    rw [hs.name, sizeArguments, hw, SqlName.spell, String.toList_ofList,
      SqlName.spellDimensions_eq_flatten]
    rfl
  · cases hw
  · cases hw

/-! ## 5. The map -/

/-- **No width is cut off.** A column that is asked for a width has this width or
the widest form, and the widest if that is asked for. If it has the widest form,
so has every column of the same dialect, content and unicode flag that is asked
for no less. The width that a column reports is the number in its name. -/
theorem widths_kept (dialect : Dialect) {d : NativeDescriptor} (hd : d.Built) :
    (∀ content size, Asks dialect d content size →
        ∃ s own, forward dialect d = some s ∧ s.length = some own
          ∧ (own.size = size ∨ own = .max) ∧ (size = ⊤ → own = .max)
          ∧ (own = .max → ∀ d' size', d'.Built → Asks dialect d' content size' →
              d'.unicode = d.unicode → size ≤ size' →
                ∃ s', forward dialect d' = some s' ∧ s'.length = some .max))
      ∧ ∀ s width, forward dialect d = some s → s.length = some (.bounded width) →
          ∃ k, s.name.toList = s.baseName.toList ++ ('(' :: (toString width.toNat).toList ++ [')'])
            ++ (List.replicate k ['[', ']']).flatten := by
  refine ⟨fun content size h => ?_, fun s width hs hw => name_of_width hd hs hw⟩
  obtain ⟨s, hs, own, hown, hsize⟩ := h.exists_hasWidth hd
  refine ⟨s, own, hs, hown, ?_, ?_, ?_⟩
  · rw [← Length.size_eq_top_iff, hsize]
    exact within_cases _ size
  · rintro rfl
    rw [← Length.size_eq_top_iff, hsize, within_top]
  · intro hmax d' size' hd' h' hunicode hle
    obtain ⟨s', hs', own', hown', hsize'⟩ := h'.exists_hasWidth hd'
    have hwidest : within (limit dialect content d.unicode) size = ⊤ :=
      hsize.symm.trans (Length.size_eq_top_iff.mpr hmax)
    rw [hunicode, within_eq_top hwidest hle] at hsize'
    exact ⟨s', hs', hown'.trans (congrArg some (Length.size_eq_top_iff.mp hsize'))⟩

/-- An enumeration with a member that is longer than the hint. -/
def colors : NativeDescriptor :=
  (NativeDescriptor.ofType (.nullable (.enum "Color" ["red", "turquoise"]))).withLength (.bounded 4)

/-- Unicode text of a width. -/
def textOf (width : UInt32) : NativeDescriptor :=
  (NativeDescriptor.ofPrimitive .string).withLength (.bounded width)

/-- In SQL Server the members of an enumeration fit, whatever the hint is, and
text of 9000 characters has the widest form since that of 5000 has it. -/
theorem widths_kept_colors :
    (∃ s own, forward .sqlServer colors = some s ∧ s.length = some own
        ∧ (own.size = 9 ∨ own = .max)
        ∧ ∃ k, s.name.toList = s.baseName.toList ++ ['(', '9', ')']
            ++ (List.replicate k ['[', ']']).flatten)
      ∧ ∃ s, forward .sqlServer (textOf 9000) = some s ∧ s.length = some .max := by
  have hbuilt : colors.Built := .withLength (.ofType _) _
  have htext : ∀ width, (textOf width).Built := fun width => .withLength (.ofType _) _
  have hasks : Asks .sqlServer colors .text 9 := by
    have hsize : max (colors.length.getD (.bounded 128)).size
        (longestMember ["red", "turquoise"]) = 9 :=
      max_eq_right (ENat.natCast_le_natCast.mpr (by decide))
    exact hsize ▸ .enum rfl (by decide)
  refine ⟨?_, ?_⟩
  · obtain ⟨s, own, hs, hown, hkept, -⟩ := (widths_kept .sqlServer hbuilt).1 .text 9 hasks
    cases hs
    exact ⟨_, own, rfl, hown, hkept, (widths_kept .sqlServer hbuilt).2 _ 9 rfl rfl⟩
  · obtain ⟨s, own, hs, hown, -, -, hmore⟩ :=
      (widths_kept .sqlServer (htext 5000)).1 .text _ (.string rfl)
    cases hs
    have hmax : own = .max := (Option.some.inj hown).symm
    exact hmore hmax (textOf 9000) _ (htext 9000) (.string rfl) rfl (by decide)

end TypeMap

end SqlAtlas
