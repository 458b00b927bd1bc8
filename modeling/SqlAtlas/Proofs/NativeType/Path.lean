/-
SqlAtlas.Proofs.NativeType.Path — what a path names, alone and in front of
arguments.

A path is a dotted name that neither begins nor ends with a dot. Alone it
stands for a scalar, a marker or a shape if it is called like one, and
otherwise for a type known by that name. In front of arguments it is
`Nullable`, or the name of a generic type behind its scope: `IsPath.cases`
splits it, and `Applied` says which types come of it. Reading such a type
succeeds exactly when `Applied` has one (`ofApplied_eq_ok_iff`): the reader
also asks whether the name is blank, but no part of a path is.
-/
import SqlAtlas.Proofs.NativeType.Token
import SqlAtlas.Proofs.NativeType.WellFormed

namespace SqlAtlas.NativeType

open Text (trim trim_eq_self_of_forall)

/-! ## 1. Paths alone -/

/-- A dotted name. -/
structure IsPath (p : List Char) : Prop where
  nonempty : p ≠ []
  chars : ∀ c ∈ p, isPathChar c = true
  head : p.head? ≠ some '.'
  last : p.getLast? ≠ some '.'

theorem isSoundPath_iff {p : List Char} :
    isSoundPath p = true ↔ p.head? ≠ some '.' ∧ p.getLast? ≠ some '.' := by
  simp [isSoundPath]

theorem IsPath.sound {p : List Char} (h : IsPath p) : isSoundPath p = true :=
  isSoundPath_iff.mpr ⟨h.head, h.last⟩

/-- A path without a dot. -/
theorem IsGenericName.isPath {name : String} (h : IsGenericName name) :
    IsPath name.toList ∧ '.' ∉ name.toList := by
  have hdot : '.' ∉ name.toList := fun hmem => absurd (h.chars '.' hmem) (by decide)
  have hchars : ∀ c ∈ name.toList, isPathChar c = true := by
    intro c hc
    rw [isPathChar, h.chars c hc, Bool.true_or]
  exact ⟨⟨h.nonempty, hchars, fun hc => hdot (List.mem_of_mem_head? hc),
    fun hc => hdot (List.mem_of_mem_getLast? hc)⟩, hdot⟩

theorem IsTypeName.isPath {name : String} (h : IsTypeName name) : IsPath name.toList :=
  ⟨h.nonempty, h.chars, h.head, h.last⟩

/-- The reserved names stand for their types. -/
theorem ofPath_primitive (kind : Primitive) : ofPath kind.name = .primitive kind := by
  cases kind <;> rfl

theorem ofPath_shape (g : Geometry) : ofPath g.name = .geometry (some g) := by
  cases g <;> rfl

/-- Any other name stands for a type known by that name. -/
theorem ofPath_named {name : String} (h : IsTypeName name) : ofPath name = .named name := by
  have hprimitive : Primitive.ofName? name = none := by
    refine List.find?_eq_none.mpr (fun kind _ hk => ?_)
    exact h.not_primitive kind (of_decide_eq_true hk).symm
  have hshape : Geometry.ofExactName? name = none := by
    refine List.find?_eq_none.mpr (fun g _ hg => ?_)
    exact h.not_shape g (of_decide_eq_true hg).symm
  rw [ofPath, hprimitive, hshape]
  simp only [if_neg h.not_json, if_neg h.not_geometry]

/-- What a path stands for is well formed and no enumeration. -/
theorem wellFormed_ofPath {p : String} (h : IsPath p.toList) :
    WellFormed (ofPath p) ∧ enumFree (ofPath p) = true := by
  by_cases hprimitive : ∃ kind : Primitive, p = kind.name
  · obtain ⟨kind, rfl⟩ := hprimitive
    rw [ofPath_primitive]
    exact ⟨.primitive kind, rfl⟩
  · by_cases hshape : ∃ g : Geometry, p = g.name
    · obtain ⟨g, rfl⟩ := hshape
      rw [ofPath_shape]
      exact ⟨.geometry (some g), rfl⟩
    · by_cases hjson : p = "Json"
      · rw [hjson]
        exact ⟨.json, rfl⟩
      · by_cases hgeometry : p = "Geometry"
        · rw [hgeometry]
          exact ⟨.geometry none, rfl⟩
        · have hname : IsTypeName p :=
            ⟨h.nonempty, h.chars, h.head, h.last, fun kind hk => hprimitive ⟨kind, hk⟩, hjson,
              hgeometry, fun g hg => hshape ⟨g, hg⟩⟩
          rw [ofPath_named hname]
          exact ⟨.named hname, rfl⟩

/-! ## 2. Scopes -/

theorem splitLastDot_of_not_mem {s : List Char} (h : '.' ∉ s) : splitLastDot s = none := by
  induction s with
  | nil => rfl
  | cons c r ih =>
      simp only [List.mem_cons, not_or] at h
      rw [splitLastDot, ih h.2]
      simp [Ne.symm h.1]

/-- The last dot stands in front of the name. -/
theorem splitLastDot_append {name : List Char} (h : '.' ∉ name) (scope : List Char) :
    splitLastDot (scope ++ '.' :: name) = some (scope, name) := by
  induction scope with
  | nil =>
      rw [List.nil_append, splitLastDot, splitLastDot_of_not_mem h]
      rfl
  | cons c scope ih => rw [List.cons_append, splitLastDot, ih]

/-- A text with a dot has a last one. -/
theorem exists_last_dot {s : List Char} (h : '.' ∈ s) :
    ∃ scope name, s = scope ++ '.' :: name ∧ '.' ∉ name := by
  obtain ⟨b, a, hs, hb⟩ := List.eq_append_cons_of_mem (List.mem_reverse.mpr h)
  refine ⟨a.reverse, b.reverse, ?_, fun hmem => hb (List.mem_reverse.mp hmem)⟩
  rw [← List.reverse_reverse s, hs]
  simp

theorem isGenericName_of_path {name : List Char} (hne : name ≠ [])
    (hchars : ∀ c ∈ name, isPathChar c = true) (hdot : '.' ∉ name) :
    IsGenericName (String.ofList name) := by
  refine ⟨by simpa using hne, fun c hc => ?_⟩
  rw [String.toList_ofList] at hc
  have hpath := hchars c hc
  have hc' : c ≠ '.' := fun h => hdot (h ▸ hc)
  simpa [isPathChar, hc'] using hpath

/-- The scope of a path that begins with no dot, and its name if it ends with
none. -/
theorem IsPath.parts {scope name : List Char} (h : IsPath (scope ++ '.' :: name))
    (hdot : '.' ∉ name) :
    IsScope (String.ofList scope) ∧ IsGenericName (String.ofList name) := by
  have hscope : scope ≠ [] := by
    rintro rfl
    exact h.head rfl
  have hname : name ≠ [] := by
    rintro rfl
    exact h.last (by rw [List.getLast?_concat])
  have hhead : (String.ofList scope).toList.head? ≠ some '.' := by
    obtain ⟨c, r, rfl⟩ := List.exists_cons_of_ne_nil hscope
    simpa using h.head
  have hchars : ∀ c ∈ (String.ofList scope).toList, isPathChar c = true := by
    intro c hc
    rw [String.toList_ofList] at hc
    exact h.chars c (List.mem_append_left _ hc)
  refine ⟨⟨by simpa using hscope, hchars, hhead⟩, isGenericName_of_path hname ?_ hdot⟩
  exact fun c hc => h.chars c (List.mem_append_right _ (List.mem_cons_of_mem _ hc))

/-- A scope and a name make a path. -/
theorem isPath_qualified {scope name : String} (hs : IsScope scope) (h : IsGenericName name) :
    IsPath (scope.toList ++ '.' :: name.toList) := by
  obtain ⟨hpath, hdot⟩ := h.isPath
  refine ⟨by simp, fun c hc => ?_, ?_, ?_⟩
  · simp only [List.mem_append, List.mem_cons] at hc
    rcases hc with hc | rfl | hc
    · exact hs.chars c hc
    · decide
    · exact hpath.chars c hc
  · obtain ⟨c, r, hc⟩ := List.exists_cons_of_ne_nil hs.nonempty
    have hfirst := hs.head
    rw [hc] at hfirst ⊢
    exact hfirst
  · have hlast := hpath.last
    rw [List.getLast?_append, List.getLast?_cons]
    rw [List.getLast?_eq_some_getLast h.nonempty] at hlast ⊢
    exact hlast

/-- **A path in front of arguments** is `Nullable`, or a name alone, or a name
behind its scope. -/
theorem IsPath.cases {p : List Char} (h : IsPath p) :
    p = "Nullable".toList
      ∨ (∃ name : String, p = name.toList ∧ name ≠ "Nullable" ∧ IsGenericName name)
      ∨ ∃ scope name : String, p = scope.toList ++ '.' :: name.toList
          ∧ IsScope scope ∧ IsGenericName name := by
  by_cases hdot : '.' ∈ p
  · obtain ⟨scope, name, rfl, hname⟩ := exists_last_dot hdot
    obtain ⟨hs, hn⟩ := h.parts hname
    exact .inr (.inr ⟨String.ofList scope, String.ofList name, by simp, hs, hn⟩)
  · by_cases hnullable : p = "Nullable".toList
    · exact .inl hnullable
    · have hname := isGenericName_of_path h.nonempty h.chars hdot
      refine .inr (.inl ⟨String.ofList p, by simp, fun hp => hnullable ?_, hname⟩)
      rw [← hp, String.toList_ofList]

/-! ## 3. Paths in front of arguments -/

/-- The type that a path and its arguments name. A nullable type has one
argument, and the nullable form of a nullable type is the type itself. A
generic type has one argument or two, and the last dot of its path stands
between its scope and its name. -/
inductive Applied : List Char → List NativeType → NativeType → Prop
  | nullable (t : NativeType) : Applied "Nullable".toList [t] t.asNullable
  | plain {name : String} {ts : List NativeType} (hne : name ≠ "Nullable")
      (hdot : '.' ∉ name.toList) (h1 : 1 ≤ ts.length) (h2 : ts.length ≤ 2) :
      Applied name.toList ts (.generic none name ts)
  | qualified (scope : String) {name : String} {ts : List NativeType} (hdot : '.' ∉ name.toList)
      (h1 : 1 ≤ ts.length) (h2 : ts.length ≤ 2) :
      Applied (scope.toList ++ '.' :: name.toList) ts (.generic (some scope) name ts)

theorem trim_path {s : List Char} (h : ∀ c ∈ s, isPathChar c = true) : trim s = s :=
  trim_eq_self_of_forall (fun c hc => not_isBlank_of_isPathChar (h c hc))

theorem cleanScope?_of_isScope {scope : String} (h : IsScope scope) :
    cleanScope? scope = some scope := by
  rw [cleanScope?, trim_path h.chars, if_neg (by simpa using h.nonempty), String.ofList_toList]

/-- The name of a path is not blank, so only the arguments are counted. -/
theorem genericOf_eq_ok_iff {name : String} (h : IsGenericName name) {scope? : Option String}
    {ts : List NativeType} {t : NativeType} :
    genericOf scope? name ts = .ok t
      ↔ (1 ≤ ts.length ∧ ts.length ≤ 2) ∧ t = .generic (scope?.bind cleanScope?) name ts := by
  have hblank : ¬ (trim name.toList).isEmpty = true := by
    rw [trim_path h.isPath.1.chars, List.isEmpty_iff]
    exact h.nonempty
  rw [genericOf, if_neg hblank]
  by_cases hcount : 1 ≤ ts.length ∧ ts.length ≤ 2
  · rw [if_pos hcount]
    simp only [Except.ok.injEq, hcount, and_self, true_and, eq_comm]
  · rw [if_neg hcount]
    simp only [reduceCtorEq, hcount, false_and]

theorem mapError_eq_ok_iff {ε ε' α : Type} {f : ε → ε'} {x : Except ε α} {a : α} :
    x.mapError f = .ok a ↔ x = .ok a := by
  cases x <;> simp [Except.mapError]

theorem ofApplied_plain {name : String} (h : IsGenericName name) (hne : name ≠ "Nullable")
    (ts : List NativeType) :
    ofApplied name.toList ts = (genericOf none name ts).mapError .shape := by
  have hpath : ¬ name.toList = "Nullable".toList := fun h => hne (String.toList_inj.mp h)
  rw [ofApplied.eq_def, if_neg hpath, splitLastDot_of_not_mem h.isPath.2, String.ofList_toList]

theorem ofApplied_qualified {scope name : String} (h : IsGenericName name) (ts : List NativeType) :
    ofApplied (scope.toList ++ '.' :: name.toList) ts
      = (genericOf (some scope) name ts).mapError .shape := by
  have hpath : ¬ scope.toList ++ '.' :: name.toList = "Nullable".toList := by
    intro heq
    have hdot : '.' ∈ "Nullable".toList := heq ▸ by simp
    exact absurd hdot (by decide)
  rw [ofApplied.eq_def, if_neg hpath, splitLastDot_append h.isPath.2]
  simp only [String.ofList_toList]

/-- **A path and its arguments are read exactly when they name a type.** -/
theorem ofApplied_eq_ok_iff {p : List Char} (hp : IsPath p) {ts : List NativeType}
    {t : NativeType} : ofApplied p ts = .ok t ↔ Applied p ts t := by
  constructor
  · intro h
    rcases hp.cases with rfl | ⟨name, rfl, hne, hname⟩ | ⟨scope, name, rfl, hscope, hname⟩
    · rw [ofApplied.eq_def, if_pos rfl] at h
      split at h
      · cases h
        exact .nullable _
      · cases h
    · rw [ofApplied_plain hname hne, mapError_eq_ok_iff, genericOf_eq_ok_iff hname] at h
      obtain ⟨hcount, rfl⟩ := h
      exact .plain hne hname.isPath.2 hcount.1 hcount.2
    · rw [ofApplied_qualified hname, mapError_eq_ok_iff, genericOf_eq_ok_iff hname] at h
      obtain ⟨hcount, rfl⟩ := h
      rw [Option.bind_some, cleanScope?_of_isScope hscope]
      exact .qualified scope hname.isPath.2 hcount.1 hcount.2
  · intro h
    cases h with
    | nullable t => rw [ofApplied.eq_def, if_pos rfl]
    | @plain name _ hne hdot h1 h2 =>
        have hname := isGenericName_of_path hp.nonempty hp.chars hdot
        rw [String.ofList_toList] at hname
        rw [ofApplied_plain hname hne, mapError_eq_ok_iff, genericOf_eq_ok_iff hname]
        exact ⟨⟨h1, h2⟩, rfl⟩
    | @qualified scope name _ hdot h1 h2 =>
        obtain ⟨hscope, hname⟩ := hp.parts hdot
        rw [String.ofList_toList] at hscope hname
        rw [ofApplied_qualified hname, mapError_eq_ok_iff, genericOf_eq_ok_iff hname,
          Option.bind_some, cleanScope?_of_isScope hscope]
        exact ⟨⟨h1, h2⟩, rfl⟩

end SqlAtlas.NativeType
