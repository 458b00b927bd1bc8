/-
SqlAtlas.Proofs.TypeMap.Attributes — the integers of MySQL and the words that go
with them.

    int(10) UNSIGNED zerofill
    int unsigned

A display width and the words `unsigned`, `signed` and `zerofill` say how an
integer is shown and whether it has a sign. The words stand in the base when
there is no list, and in the modifiers when there is one; in the key they come to
the same. `reverse?_integer` says that neither the list nor the order, the number
and the case of the words has a part in the type, `unsigned` apart. The one list
that does is the single digit `1` behind `tinyint`: without `unsigned` it makes a
truth value.
-/
import SqlAtlas.Proofs.SqlName.Listed
import SqlAtlas.Proofs.TypeMap.Columns

namespace SqlAtlas.TypeMap

open SqlName (HasNameWords isNameChar words_key)
open Text (lowerCase unwords words)

/-! ## 1. Integers and attributes -/

/-- The names of the integers, each with what it stands for with a sign and
without one. -/
def integerKinds : List (String × Primitive × Primitive) :=
  [("tinyint", .int8, .uint8), ("smallint", .int16, .uint16), ("mediumint", .int32, .uint32),
   ("int", .int32, .uint32), ("integer", .int32, .uint32), ("bigint", .int64, .uint64)]

/-- The words that go with an integer. -/
def attributeWords : List (List Char) :=
  ["unsigned".toList, "signed".toList, "zerofill".toList]

/-- Nothing but attributes, in any case. -/
def HasAttributes (w : List Char) : Prop := ∀ v ∈ words w, lowerCase v ∈ attributeWords

/-- Whether one of the words is `unsigned`, in any case. -/
def SaysUnsigned (w : List Char) : Prop := "unsigned".toList ∈ (words w).map lowerCase

instance (w : List Char) : Decidable (HasAttributes w) :=
  inferInstanceAs (Decidable (∀ v ∈ words w, lowerCase v ∈ attributeWords))

instance (w : List Char) : Decidable (SaysUnsigned w) :=
  inferInstanceAs (Decidable ("unsigned".toList ∈ (words w).map lowerCase))

theorem HasAttributes.hasNameWords {w : List Char} (h : HasAttributes w) : HasNameWords w := by
  have hall : ∀ v ∈ attributeWords, ∀ c ∈ v, isNameChar c = true := by decide
  intro v hv
  exact hall _ (h v hv)

/-- The name of an integer is one word in small letters, and no attribute. -/
theorem base_of_mem {base : String} {signed unsigned : Primitive}
    (h : (base, signed, unsigned) ∈ integerKinds) :
    words base.toList = [base.toList] ∧ lowerCase base.toList = base.toList
      ∧ MySql.isAttribute base.toList = false ∧ HasNameWords base.toList := by
  have hall : ∀ kind ∈ integerKinds, words kind.1.toList = [kind.1.toList]
      ∧ lowerCase kind.1.toList = kind.1.toList ∧ MySql.isAttribute kind.1.toList = false
      ∧ HasNameWords kind.1.toList := by decide +kernel
  exact hall _ h

/-! ## 2. The rows -/

namespace MySql

/-- A name whose key is a base with attributes behind it. -/
structure IsAttributed (n : SqlName) (base : String) (vs : List (List Char)) : Prop where
  key : words n.key.toList = base.toList :: vs
  attributes : ∀ v ∈ vs, v ∈ attributeWords
  bare : isAttribute base.toList = false

variable {n : SqlName} {base : String} {vs : List (List Char)} (h : IsAttributed n base vs)

include h

theorem IsAttributed.bareKey_eq : bareKey n = base := by
  have hnone : vs.filter (fun v => !isAttribute v) = [] := by
    have hall : ∀ v ∈ attributeWords, isAttribute v = true := by decide
    rw [List.filter_eq_nil_iff]
    intro v hv
    simp [hall v (h.attributes v hv)]
  rw [bareKey, h.key, List.filter_cons, h.bare, Bool.not_false, if_pos rfl, hnone, unwords,
    String.ofList_toList]

theorem IsAttributed.isUnsigned_eq : isUnsigned n = decide ("unsigned".toList ∈ vs) := by
  have hne : "unsigned".toList ≠ base.toList := by
    intro heq
    have hbare := h.bare
    rw [← heq] at hbare
    exact absurd hbare (by decide)
  rw [isUnsigned, h.key, Bool.eq_iff_iff, List.contains_iff_mem, decide_eq_true_eq, List.mem_cons,
    or_iff_right hne]

omit h in
/-- The row of an integer. -/
theorem native_of_bareKey {signed unsigned : Primitive} (hkey : bareKey n = base)
    (hbase : (base, signed, unsigned) ∈ integerKinds) :
    native n = if base = "tinyint" then tinyInteger n else integer n signed unsigned := by
  simp only [integerKinds, List.mem_cons, Prod.mk.injEq, List.not_mem_nil, or_false] at hbase
  rw [native, hkey]
  rcases hbase with ⟨rfl, rfl, rfl⟩ | ⟨rfl, rfl, rfl⟩ | ⟨rfl, rfl, rfl⟩ | ⟨rfl, rfl, rfl⟩
    | ⟨rfl, rfl, rfl⟩ | ⟨rfl, rfl, rfl⟩ <;> rfl

/-- **What an integer stands for**, whatever attributes stand behind it. -/
theorem IsAttributed.native_eq {signed unsigned : Primitive}
    (hbase : (base, signed, unsigned) ∈ integerKinds) :
    native n = some (.ofPrimitive
      (if base = "tinyint" ∧ n.arguments = ["1"] ∧ "unsigned".toList ∉ vs then .boolean
       else if "unsigned".toList ∈ vs then unsigned else signed)) := by
  rw [native_of_bareKey h.bareKey_eq hbase]
  by_cases htiny : base = "tinyint"
  · obtain ⟨rfl, rfl⟩ : signed = .int8 ∧ unsigned = .uint8 := by
      subst htiny
      simpa [integerKinds] using hbase
    by_cases hunsigned : "unsigned".toList ∈ vs <;> by_cases hone : n.arguments = ["1"]
      <;> simp only [tinyInteger, integer, h.isUnsigned_eq, htiny, hunsigned, hone]
      <;> rfl
  · simp only [integer, h.isUnsigned_eq, htiny, false_and, if_false, decide_eq_true_eq]

end MySql

/-! ## 3. Texts -/

section

variable {base : String} {signed unsigned : Primitive}
  (hbase : (base, signed, unsigned) ∈ integerKinds) {w : List Char} (hw : HasAttributes w)

include hbase hw

/-- A text stands for an integer when the words of its base and of its modifiers
are the name of an integer and attributes. Where the one ends and the other
begins does not matter. -/
theorem reverse?_of_attributes {text s m : List Char} {n : SqlName}
    (hread : SqlName.read text = some n) (hs : HasNameWords s) (hm : HasNameWords m)
    (hns : n.base = String.ofList (SqlName.lowerWords s))
    (hnm : n.modifiers = String.ofList (SqlName.lowerWords m)) (hn : n.dimensions = 0)
    (hwords : words s ++ words m = base.toList :: words w) :
    reverse? .mySql text = some (.ofPrimitive
      (if base = "tinyint" ∧ n.arguments = ["1"] ∧ ¬ SaysUnsigned w then .boolean
       else if SaysUnsigned w then unsigned else signed)) := by
  obtain ⟨-, hlower, hbare, -⟩ := base_of_mem hbase
  have hkey : words n.key.toList = base.toList :: (words w).map lowerCase := by
    rw [words_key hs hm hns hnm, ← List.map_append, hwords, List.map_cons, hlower]
  have hattributed : MySql.IsAttributed n base ((words w).map lowerCase) := by
    refine ⟨hkey, ?_, hbare⟩
    intro v hv
    obtain ⟨u, hu, rfl⟩ := List.mem_map.mp hv
    exact hw u hu
  have hdim : dimensioned .mySql n = (n, 0) := by
    rw [dimensioned, hn]
    rfl
  rw [reverse?_of_read hread hdim]
  exact hattributed.native_eq hbase

/-- Without a list the attributes are words of the base. -/
theorem reverse?_unlisted : reverse? .mySql (base.toList ++ ' ' :: w)
    = some (.ofPrimitive (if SaysUnsigned w then unsigned else signed)) := by
  obtain ⟨hbwords, -, -, hbname⟩ := base_of_mem hbase
  have hwords : words (base.toList ++ ' ' :: w) = base.toList :: words w := by
    rw [Text.words_append_cons (by decide), hbwords, List.singleton_append]
  have hname : HasNameWords (base.toList ++ ' ' :: w) := by
    intro v hv
    rw [Text.words_append_cons (by decide), List.mem_append] at hv
    exact hv.elim (hbname v) (hw.hasNameWords v)
  have hread := SqlName.read_words hname (by simp [hwords])
  rw [reverse?_of_attributes hbase hw hread hname (m := []) (by simp [HasNameWords]) rfl rfl rfl
    (by simpa using hwords)]
  simp

/-- Behind a list they are the modifiers. -/
theorem reverse?_listed {a : List Char} (ha : SqlName.IsParameters a) :
    reverse? .mySql (base.toList ++ '(' :: a ++ ')' :: ' ' :: w)
      = some (.ofPrimitive
          (if base = "tinyint" ∧ (SqlName.partsOf a).map String.ofList = ["1"]
              ∧ ¬ SaysUnsigned w then .boolean
           else if SaysUnsigned w then unsigned else signed)) := by
  obtain ⟨hbwords, -, -, hbname⟩ := base_of_mem hbase
  have hwords : words (' ' :: w) = words w := Text.words_cons_blank (by decide) w
  have hname : HasNameWords (' ' :: w) := hw.hasNameWords.congr hwords
  have hread := SqlName.read_listed hbname (by simp [hbwords]) ha hname
  exact reverse?_of_attributes hbase hw hread hbname hname rfl rfl rfl
    (by rw [hbwords, hwords, List.singleton_append])

end

/-! ## 4. Integers -/

/-- **Integers and their attributes.** An integer with attributes stands for the
unsigned kind of its base when one of them is `unsigned`, and for the signed kind
when none is, however many there are and in whatever order and case. A list of
arguments between the base and the attributes changes nothing: any list will do
that is read behind some base. Only the list that is nothing but `1` makes a
truth value of a `tinyint` that is not `unsigned`. -/
theorem reverse?_integer {base : String} {signed unsigned : Primitive}
    (hbase : (base, signed, unsigned) ∈ integerKinds) {w : List Char} (hw : HasAttributes w)
    {t a : List Char} {n : SqlName} (ha : SqlName.read (t ++ '(' :: a ++ [')']) = some n) :
    reverse? .mySql (base.toList ++ ' ' :: w)
        = some (.ofPrimitive (if SaysUnsigned w then unsigned else signed))
      ∧ reverse? .mySql (base.toList ++ '(' :: a ++ ')' :: ' ' :: w)
        = if base = "tinyint" ∧ n.arguments = ["1"] ∧ ¬ SaysUnsigned w then
            some (.ofPrimitive .boolean)
          else reverse? .mySql (base.toList ++ ' ' :: w) := by
  obtain ⟨hparameters, harguments⟩ := SqlName.parameters_of_read ha
  have hunlisted := reverse?_unlisted hbase hw
  refine ⟨hunlisted, ?_⟩
  rw [reverse?_listed hbase hw hparameters, ← harguments, hunlisted]
  split <;> rfl

/-- A width of three digits with attributes in both cases and out of order, and
the list that makes a truth value. -/
theorem reverse?_integer_width :
    reverse? .mySql "int(010) ZeroFill UNSIGNED  zerofill".toList = some (.ofPrimitive .uint32)
      ∧ reverse? .mySql "tinyint( 1 ,) Signed".toList = some (.ofPrimitive .boolean) := by
  have hint : ("int", .int32, .uint32) ∈ integerKinds := by decide
  have htiny : ("tinyint", .int8, .uint8) ∈ integerKinds := by decide
  have hzerofill : HasAttributes "ZeroFill UNSIGNED  zerofill".toList := by decide +kernel
  have hsigned : HasAttributes "Signed".toList := by decide +kernel
  have hthree : SqlName.read ("f".toList ++ '(' :: "010".toList ++ [')'])
      = some ⟨"f(010)", "f", ["010"], "", 0⟩ := by decide +kernel
  have hone : SqlName.read ("f".toList ++ '(' :: " 1 ,".toList ++ [')'])
      = some ⟨"f( 1 ,)", "f", ["1"], "", 0⟩ := by decide +kernel
  obtain ⟨hplain, hwidth⟩ := reverse?_integer hint hzerofill hthree
  obtain ⟨-, htruth⟩ := reverse?_integer htiny hsigned hone
  rw [if_neg (by decide), hplain, if_pos (by decide +kernel)] at hwidth
  rw [if_pos (by decide +kernel)] at htruth
  exact ⟨hwidth, htruth⟩

end SqlAtlas.TypeMap
