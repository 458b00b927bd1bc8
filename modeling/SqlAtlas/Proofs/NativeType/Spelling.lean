/-
SqlAtlas.Proofs.NativeType.Spelling — the canonical name of a well formed
type reads back as that type.

A canonical name is a text of the grammar, with no blank in it but the one
behind the comma of a generic type (`typeText_spell`). So the reader takes it,
and to the type that the grammar has for it. This type is the one that was
spelled, with its enumerations known by name only.
-/
import SqlAtlas.Proofs.NativeType.Grammar

namespace SqlAtlas.NativeType

open Text (IsBlanks isBlanks_nil)

/-! ## 1. Names as texts of the grammar -/

/-- A path without blanks around it. -/
theorem typeText_path {p : String} (hp : IsPath p.toList) {t : NativeType} (ht : ofPath p = t) :
    TypeText p.toList t := by
  have htype := TypeText.path isBlanks_nil hp isBlanks_nil
  rwa [List.nil_append, List.append_nil, String.ofList_toList, ht] at htype

/-- A path and its arguments without blanks beside the marks. -/
theorem typeText_applied {p s : List Char} {ts : List NativeType} {t : NativeType}
    (hp : IsPath p) (hs : ArgumentsText s ts) (ht : Applied p ts t) :
    TypeText (p ++ '<' :: s ++ ['>']) t := by
  have htype := TypeText.applied isBlanks_nil hp isBlanks_nil hs isBlanks_nil ht
  rwa [List.nil_append, List.append_nil, List.append_nil] at htype

theorem commaRow_replicate (n : Nat) : CommaRow n (List.replicate n ',') := by
  induction n with
  | zero => exact .nil
  | succ n ih =>
      have hrow := CommaRow.comma ih isBlanks_nil
      rwa [List.append_nil, ← List.replicate_succ'] at hrow

/-- The brackets behind a type. -/
theorem typeText_array {s : List Char} {t : NativeType} (hs : TypeText s t) {rank : Nat}
    (h1 : 1 ≤ rank) (hr : rank ≤ maxArrayRank) :
    TypeText (s ++ '[' :: List.replicate (rank - 1) ',' ++ [']']) (.array t rank) := by
  have hlt : rank - 1 < maxArrayRank := by omega
  have htype := TypeText.array hs isBlanks_nil (commaRow_replicate (rank - 1)) isBlanks_nil hlt
  rwa [List.append_nil, List.append_nil, Nat.sub_add_cancel h1] at htype

theorem isPath_name {p : String} (h : (p.toList ≠ [] ∧ p.toList.all isPathChar = true)
    ∧ isSoundPath p.toList = true) : IsPath p.toList :=
  ⟨h.1.1, List.all_eq_true.mp h.1.2, (isSoundPath_iff.mp h.2).1, (isSoundPath_iff.mp h.2).2⟩

/-- One argument, or two with a comma and a blank between them. -/
theorem argumentsText_spellAll {ts : List NativeType} (h1 : 1 ≤ ts.length) (h2 : ts.length ≤ 2)
    (h : ∀ t ∈ ts, TypeText (spell t) (withoutEnums t)) :
    ArgumentsText (spellAll ts) (withoutEnumsAll ts) := by
  match ts with
  | [t] => exact .one (h t (by simp))
  | [t, u] =>
      have hblank : IsBlanks [' '] := by decide
      have hlast := (h u (by simp)).blanks_append hblank
      have hrow := ArgumentsText.more (.one (h t (by simp))) isBlanks_nil hlast
      rw [List.append_nil] at hrow
      have htext : spellAll [t, u] = spell t ++ ',' :: ([' '] ++ spell u) := by
        simp [spellAll]
      rw [htext]
      exact hrow

/-- **The canonical name of a well formed type is a text of the grammar.** -/
theorem typeText_spell {t : NativeType} (h : WellFormed t) :
    TypeText (spell t) (withoutEnums t) := by
  induction h with
  | primitive kind =>
      exact typeText_path (isPath_name (by cases kind <;> decide)) (ofPath_primitive kind)
  | @nullable t _ hn ih =>
      have hvalue : (withoutEnums t).asNullable = .nullable (withoutEnums t) := by
        cases t with
        | nullable t => exact absurd rfl (hn t)
        | _ => rfl
      have happlied := Applied.nullable (withoutEnums t)
      rw [hvalue] at happlied
      exact typeText_applied (isPath_name (by decide)) (.one ih) happlied
  | array _ h1 hr ih => exact typeText_array ih h1 hr
  | @generic name ts hname hne h1 h2 _ ih =>
      have hargs := argumentsText_spellAll h1 h2 ih
      rw [← length_withoutEnumsAll] at h1 h2
      exact typeText_applied hname.isPath.1 hargs (.plain hne hname.isPath.2 h1 h2)
  | @qualified scope name ts hscope hname h1 h2 _ ih =>
      have hargs := argumentsText_spellAll h1 h2 ih
      rw [← length_withoutEnumsAll] at h1 h2
      exact typeText_applied (isPath_qualified hscope hname) hargs
        (.qualified scope hname.isPath.2 h1 h2)
  | enum hname members => exact typeText_path hname.isPath (ofPath_named hname)
  | json => exact typeText_path (isPath_name (by decide)) rfl
  | geometry shape? =>
      cases shape? with
      | none => exact typeText_path (isPath_name (by decide)) rfl
      | some g => exact typeText_path (isPath_name (by cases g <;> decide)) (ofPath_shape g)
  | named hname => exact typeText_path hname.isPath (ofPath_named hname)

/-! ## 2. The round trip -/

theorem ofName_of_wellFormed {t : NativeType} (h : WellFormed t) :
    ofName t.name.toList = .ok (withoutEnums t) := by
  have hread := ofName_of_typeText (typeText_spell h) isBlanks_nil
  rwa [List.append_nil, ← String.toList_ofList (l := spell t), ← name] at hread

/-- **Reading undoes spelling.** The canonical name of a well formed type
reads back as the type, its enumerations known by their names. So no two
types without enumerations share a name. -/
theorem ofName_name {t u : NativeType} (ht : WellFormed t) (hu : WellFormed u) :
    ofName t.name.toList = .ok (withoutEnums t)
      ∧ (enumFree t = true → enumFree u = true → t ≠ u → t.name ≠ u.name) := by
  refine ⟨ofName_of_wellFormed ht, fun hft hfu hne hname => hne ?_⟩
  have hread := ofName_of_wellFormed ht
  rw [hname, ofName_of_wellFormed hu, withoutEnums_of_enumFree hft,
    withoutEnums_of_enumFree hfu] at hread
  exact (Except.ok.inj hread).symm

/-- An array of nullable indices, with a scope of two parts or without one. -/
def indexType (scope? : Option String) : NativeType :=
  .array (.nullable (.generic scope? "Index" [.primitive .string, .array (.named "Shop.Item") 2])) 1

theorem wellFormed_indexType :
    WellFormed (indexType (some "Shop.Maps")) ∧ WellFormed (indexType none) := by
  have hitem : IsTypeName "Shop.Item" :=
    ⟨by decide, List.all_eq_true.mp (by decide), by decide, by decide,
      by intro kind; cases kind <;> decide, by decide, by decide, by intro g; cases g <;> decide⟩
  have hname : IsGenericName "Index" := ⟨by decide, List.all_eq_true.mp (by decide)⟩
  have hscope : IsScope "Shop.Maps" := ⟨by decide, List.all_eq_true.mp (by decide), by decide⟩
  have hargs : ∀ t ∈ [NativeType.primitive .string, .array (.named "Shop.Item") 2],
      WellFormed t := by
    intro t ht
    simp only [List.mem_cons, List.not_mem_nil, or_false] at ht
    rcases ht with rfl | rfl
    · exact .primitive .string
    · exact .array (.named hitem) (by decide) (by decide)
  refine ⟨.array (.nullable (.qualified hscope hname ?_ ?_ hargs) ?_) ?_ ?_,
    .array (.nullable (.generic hname ?_ ?_ ?_ hargs) ?_) ?_ ?_⟩ <;> first | decide | simp

/-- The scope of a type in arrays and nullables is read back, and tells the
type from the one without it. -/
theorem ofName_name_indexType :
    ofName (indexType (some "Shop.Maps")).name.toList = .ok (indexType (some "Shop.Maps"))
      ∧ (indexType (some "Shop.Maps")).name ≠ (indexType none).name := by
  have h := ofName_name wellFormed_indexType.1 wellFormed_indexType.2
  exact ⟨h.1, h.2 rfl rfl (by decide)⟩

end SqlAtlas.NativeType
