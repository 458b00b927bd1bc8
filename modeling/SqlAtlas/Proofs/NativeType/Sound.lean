/-
SqlAtlas.Proofs.NativeType.Sound — the types that are built and read.

The type of native types holds trees that must not be: nullables of nullables,
arrays of no dimension, generic types without a name. `Sound` says that a type
has nothing of this at any depth. It is an invariant of everything that makes
types: of the functions that build them, in any number of steps, of the reader
of canonical names, and of the rules that read SQL type names.

What is read is more than sound. It has a canonical name that stands for it
(`IsCanonical`), and so reading this name changes nothing. These are exactly
the types that canonical names stand for (`exists_ofName_iff`).
-/
import SqlAtlas.Proofs.NativeType.Spelling
import SqlAtlas.Proofs.TypeMap.Introspection

namespace SqlAtlas.NativeType

open Text (IsBlanks trim_eq_nil_iff)

/-! ## 1. Sound types -/

/-- A type in which, at any depth, no nullable type is right below another, the
number of dimensions of an array is in its bounds, and a generic type has one
argument or two and a name that is not blank. -/
inductive Sound : NativeType → Prop
  | primitive (kind : Primitive) : Sound (.primitive kind)
  | nullable {t : NativeType} (h : Sound t) (hn : ∀ u, t ≠ .nullable u) : Sound (.nullable t)
  | array {t : NativeType} {rank : Nat} (h : Sound t) (h1 : 1 ≤ rank) (hr : rank ≤ maxArrayRank) :
      Sound (.array t rank)
  | generic (scope? : Option String) {name : String} {ts : List NativeType}
      (hname : ¬ IsBlanks name.toList) (h1 : 1 ≤ ts.length) (h2 : ts.length ≤ 2)
      (h : ∀ t ∈ ts, Sound t) : Sound (.generic scope? name ts)
  | enum (name : String) (members : List String) : Sound (.enum name members)
  | json : Sound .json
  | geometry (shape? : Option Geometry) : Sound (.geometry shape?)
  | named (name : String) : Sound (.named name)

/-- A nullable type is not wrapped once more. -/
theorem asNullable_cases (t : NativeType) :
    (∃ u, t = .nullable u ∧ t.asNullable = t)
      ∨ ((∀ u, t ≠ .nullable u) ∧ t.asNullable = .nullable t) := by
  cases t with
  | nullable u => exact .inl ⟨u, rfl, rfl⟩
  | _ => exact .inr ⟨(fun u hu => by cases hu), rfl⟩

theorem Sound.asNullable {t : NativeType} (h : Sound t) : Sound t.asNullable := by
  rcases asNullable_cases t with ⟨_, _, ht⟩ | ⟨hn, ht⟩
  · rwa [ht]
  · rw [ht]
    exact .nullable h hn

theorem Sound.arrayOfRank {t u : NativeType} {rank : Nat} (h : Sound t)
    (hu : t.arrayOfRank rank = .ok u) : Sound u := by
  rw [NativeType.arrayOfRank] at hu
  split at hu
  · rename_i hrank
    cases hu
    exact .array h hrank.1 hrank.2
  · cases hu

theorem Sound.genericOf {scope? : Option String} {name : String} {ts : List NativeType}
    {t : NativeType} (h : ∀ t ∈ ts, Sound t) (ht : genericOf scope? name ts = .ok t) :
    Sound t := by
  rw [NativeType.genericOf] at ht
  split at ht
  · cases ht
  · rename_i hname
    rw [List.isEmpty_iff, trim_eq_nil_iff] at hname
    split at ht
    · rename_i hcount
      cases ht
      exact .generic _ hname hcount.1 hcount.2 h
    · cases ht

theorem Sound.stripNullable {t : NativeType} (h : Sound t) : Sound t.stripNullable := by
  induction h with
  | nullable _ _ ih => exact ih
  | primitive kind => exact .primitive kind
  | array h h1 hr _ => exact .array h h1 hr
  | generic scope? hname h1 h2 h _ => exact .generic scope? hname h1 h2 h
  | enum name members => exact .enum name members
  | json => exact .json
  | geometry shape? => exact .geometry shape?
  | named name => exact .named name

/-! ## 2. Canonical types -/

/-- A type that its canonical name stands for, with no enumeration in it. -/
structure IsCanonical (t : NativeType) : Prop where
  wellFormed : WellFormed t
  enumFree : enumFree t = true

/-- A name of path characters is not blank. -/
theorem IsGenericName.not_isBlanks {name : String} (h : IsGenericName name) :
    ¬ IsBlanks name.toList := by
  rw [← trim_eq_nil_iff, trim_path h.isPath.1.chars]
  exact h.nonempty

theorem WellFormed.sound {t : NativeType} (h : WellFormed t) : Sound t := by
  induction h with
  | primitive kind => exact .primitive kind
  | nullable _ hn ih => exact .nullable ih hn
  | array _ h1 hr ih => exact .array ih h1 hr
  | generic hname _ h1 h2 _ ih => exact .generic none hname.not_isBlanks h1 h2 ih
  | qualified _ hname h1 h2 _ ih => exact .generic _ hname.not_isBlanks h1 h2 ih
  | enum _ members => exact .enum _ members
  | json => exact .json
  | geometry shape? => exact .geometry shape?
  | named _ => exact .named _

theorem IsCanonical.ofName_eq_ok {t : NativeType} (h : IsCanonical t) :
    ofName t.name.toList = .ok t := by
  rw [ofName_of_wellFormed h.wellFormed, withoutEnums_of_enumFree h.enumFree]

theorem enumFreeAll_iff {ts : List NativeType} :
    enumFreeAll ts = true ↔ ∀ t ∈ ts, enumFree t = true := by
  induction ts with
  | nil => simp [enumFreeAll]
  | cons t ts ih => simp [enumFreeAll, ih]

theorem IsCanonical.asNullable {t : NativeType} (h : IsCanonical t) :
    IsCanonical t.asNullable := by
  rcases asNullable_cases t with ⟨_, _, ht⟩ | ⟨hn, ht⟩
  · rwa [ht]
  · rw [ht]
    exact ⟨.nullable h.wellFormed hn, h.enumFree⟩

theorem IsCanonical.array {t : NativeType} {rank : Nat} (h : IsCanonical t) (h1 : 1 ≤ rank)
    (hr : rank ≤ maxArrayRank) : IsCanonical (.array t rank) :=
  ⟨.array h.wellFormed h1 hr, h.enumFree⟩

/-- What a path makes of canonical arguments is canonical. -/
theorem Applied.isCanonical {p : List Char} (hp : IsPath p) {ts : List NativeType}
    {t : NativeType} (ht : Applied p ts t) (h : ∀ t ∈ ts, IsCanonical t) : IsCanonical t := by
  have hfree : enumFreeAll ts = true := enumFreeAll_iff.mpr (fun t ht => (h t ht).enumFree)
  cases ht with
  | nullable t => exact (h t (by simp)).asNullable
  | @plain name _ hne hdot h1 h2 =>
      have hname := isGenericName_of_path hp.nonempty hp.chars hdot
      rw [String.ofList_toList] at hname
      exact ⟨.generic hname hne h1 h2 (fun t ht => (h t ht).wellFormed), hfree⟩
  | @qualified scope name _ hdot h1 h2 =>
      obtain ⟨hscope, hname⟩ := hp.parts hdot
      rw [String.ofList_toList] at hscope hname
      exact ⟨.qualified hscope hname h1 h2 (fun t ht => (h t ht).wellFormed), hfree⟩

mutual

/-- **The grammar has names of canonical types only.** -/
theorem TypeText.isCanonical : ∀ {s : List Char} {t : NativeType}, TypeText s t → IsCanonical t
  | _, _, .path (p := p) _ hp _ => by
      have hpath : IsPath (String.ofList p).toList := by rwa [String.toList_ofList]
      exact ⟨(wellFormed_ofPath hpath).1, (wellFormed_ofPath hpath).2⟩
  | _, _, .applied _ hp _ hs _ ht => ht.isCanonical hp hs.isCanonical
  | _, _, .array (n := n) hs _ _ _ hn => hs.isCanonical.array (Nat.le_add_left 1 n) hn

theorem ArgumentsText.isCanonical : ∀ {s : List Char} {ts : List NativeType},
    ArgumentsText s ts → ∀ t ∈ ts, IsCanonical t
  | _, _, .one hs, t, ht => by
      rw [List.mem_singleton.mp ht]
      exact hs.isCanonical
  | _, _, .more hs _ hr, t, ht => by
      rcases List.mem_append.mp ht with ht | ht
      · exact hs.isCanonical t ht
      · rw [List.mem_singleton.mp ht]
        exact hr.isCanonical

end

theorem isCanonical_of_ofName {text : List Char} {t : NativeType} (h : ofName text = .ok t) :
    IsCanonical t := by
  obtain ⟨_, _, _, hs, _⟩ := typeText_of_ofName h
  exact hs.isCanonical

/-- **The canonical types are what the reader returns.** -/
theorem exists_ofName_iff {t : NativeType} : (∃ text, ofName text = .ok t) ↔ IsCanonical t :=
  ⟨fun ⟨_, h⟩ => isCanonical_of_ofName h, fun h => ⟨_, h.ofName_eq_ok⟩⟩

/-! ## 3. Types of columns -/

theorem isCanonical_bytes : IsCanonical bytes :=
  ⟨.array (.primitive .uint8) (by decide) (by decide), rfl⟩

theorem isCanonical_of_returned {dialect : Dialect} {d : NativeDescriptor}
    (h : TypeMap.Returned dialect d) : IsCanonical d.type := by
  cases h with
  | scalar _ _ _ => exact ⟨.primitive _, rfl⟩
  | char _ => exact ⟨.primitive .char, rfl⟩
  | decimal => exact ⟨.primitive .decimal, rfl⟩
  | digits _ _ => exact ⟨.primitive .decimal, rfl⟩
  | text _ _ _ _ _ _ => exact ⟨.primitive .string, rfl⟩
  | bytes _ _ _ => exact isCanonical_bytes
  | json _ => exact ⟨.json, rfl⟩
  | geometry shape? => exact ⟨.geometry shape?, rfl⟩

/-- **SQL type names stand for canonical types only.** -/
theorem isCanonical_of_reverse? {dialect : Dialect} {text : List Char} {d : NativeDescriptor}
    (h : TypeMap.reverse? dialect text = some d) : IsCanonical d.type := by
  rcases TypeMap.returned_of_reverse? h with hd | ⟨_, element, rank, he, h0, hr, rfl⟩
  · exact isCanonical_of_returned hd
  · exact (isCanonical_of_returned he).array h0 hr

/-! ## 4. Every type that is had -/

/-- A type that is read: from a canonical name, or from the name of a SQL
type. -/
inductive IsRead : NativeType → Prop
  | ofName {text : List Char} {t : NativeType} (h : ofName text = .ok t) : IsRead t
  | reverse {dialect : Dialect} {text : List Char} {d : NativeDescriptor}
      (h : TypeMap.reverse? dialect text = some d) : IsRead d.type

/-- A type that is read, or that is built from such types and from those
without parts. -/
inductive Built : NativeType → Prop
  | read {t : NativeType} (h : IsRead t) : Built t
  | primitive (kind : Primitive) : Built (.primitive kind)
  | named (name : String) : Built (.named name)
  | enum (name : String) (members : List String) : Built (.enum name members)
  | json : Built .json
  | geometry (shape? : Option Geometry) : Built (.geometry shape?)
  | asNullable {t : NativeType} (h : Built t) : Built t.asNullable
  | arrayOf {t : NativeType} (h : Built t) : Built t.arrayOf
  | arrayOfRank {t u : NativeType} {rank : Nat} (h : Built t)
      (hu : t.arrayOfRank rank = .ok u) : Built u
  | listOf {t : NativeType} (h : Built t) : Built t.listOf
  | dictionaryOf {t u : NativeType} (ht : Built t) (hu : Built u) : Built (dictionaryOf t u)
  | genericOf {scope? : Option String} {name : String} {ts : List NativeType} {t : NativeType}
      (h : ∀ t ∈ ts, Built t) (ht : genericOf scope? name ts = .ok t) : Built t
  | stripNullable {t : NativeType} (h : Built t) : Built t.stripNullable

theorem IsRead.isCanonical {t : NativeType} (h : IsRead t) : IsCanonical t := by
  cases h with
  | ofName h => exact isCanonical_of_ofName h
  | reverse h => exact isCanonical_of_reverse? h

/-- **Every type that is built or read is sound.** One that is read has no
enumeration in it, and its canonical name reads back as the type itself. -/
theorem sound_of_built (t : NativeType) :
    (Built t → Sound t) ∧ (IsRead t → enumFree t = true ∧ ofName t.name.toList = .ok t) := by
  refine ⟨fun h => ?_, fun h => ⟨h.isCanonical.enumFree, h.isCanonical.ofName_eq_ok⟩⟩
  induction h with
  | read h => exact h.isCanonical.wellFormed.sound
  | primitive kind => exact .primitive kind
  | named name => exact .named name
  | enum name members => exact .enum name members
  | json => exact .json
  | geometry shape? => exact .geometry shape?
  | asNullable _ ih => exact ih.asNullable
  | arrayOf _ ih => exact .array ih (by decide) (by decide)
  | arrayOfRank _ hu ih => exact ih.arrayOfRank hu
  | listOf _ ih =>
      refine .generic none (by decide) (by simp) (by simp) (fun t ht => ?_)
      rwa [List.mem_singleton.mp ht]
  | dictionaryOf _ _ iht ihu =>
      refine .generic none (by decide) (by simp) (by simp) (fun t ht => ?_)
      simp only [List.mem_cons, List.not_mem_nil, or_false] at ht
      rcases ht with rfl | rfl
      · exact iht
      · exact ihu
  | genericOf _ ht ih => exact Sound.genericOf ih ht
  | stripNullable _ ih => exact ih.stripNullable

/-- The array that the catalog of PostgreSQL writes with an underscore, alone
and as the key of a dictionary. -/
theorem sound_of_built_geometryKeys :
    Sound (dictionaryOf (.array (.geometry (some .point)) 1)
        (NativeType.enum "" []).asNullable.asNullable)
      ∧ ofName (NativeType.array (.geometry (some .point)) 1).name.toList
          = .ok (.array (.geometry (some .point)) 1) := by
  have hread : IsRead (.array (.geometry (some .point)) 1) := by
    have hreverse : TypeMap.reverse? .postgreSql "_geometry(Point)".toList
        = some (.ofType (.array (.geometry (some .point)) 1)) := by decide
    exact .reverse hreverse
  have hbuilt := Built.dictionaryOf (.read hread) (.asNullable (.asNullable (.enum "" [])))
  exact ⟨(sound_of_built _).1 hbuilt, ((sound_of_built _).2 hread).2⟩

end SqlAtlas.NativeType
