/-
SqlAtlas.Proofs.TypeMap.Acceptance — what a name holds that stands for a native
type.

Outside its parameter list such a name is made of ASCII letters and digits,
underscores, dots, blanks and brackets, as far as it is ASCII at all
(`isOuterChar`), so no quote, separator or comment stands there. Inside the list
it depends on the row of the name. Where the row reads sizes every argument is
one; everywhere else the list is not looked at, and the name stands for
something with any other list in its place. `shape_of_accepted` says both.
-/
import SqlAtlas.Proofs.SqlName.Layout
import SqlAtlas.Proofs.Text.LowerCase
import SqlAtlas.Proofs.Text.Words
import SqlAtlas.Proofs.TypeMap.Arguments
import SqlAtlas.SqlName.Safe

namespace SqlAtlas

open Text (isAscii isBlank trim unwords words)

namespace SqlName

/-! ## 1. Characters outside the list -/

/-- A character that may stand outside the parameter list: of ASCII only those of
words, blanks and groups. -/
def isOuterChar (c : Char) : Bool :=
  !isAscii c || isIdentChar c || c = '.' || isBlank c || c = '[' || c = ']'

/-- A character whose small letter is plain: there are few enough of ASCII to try
them all. -/
theorem isOuterChar_of_toLower {c : Char} (hascii : isAscii c = true)
    (h : isPlain [c.toLower] = true) : isOuterChar c = true := by
  have hall : ∀ n < 0x80, isPlain [(Char.ofNat n).toLower] = true →
      isOuterChar (Char.ofNat n) = true := by decide +kernel
  rw [isAscii, decide_eq_true_eq] at hascii
  have hc := hall c.toNat hascii
  rw [Char.ofNat_toNat] at hc
  exact hc h

/-- Words that are plain in small letters hold nothing else of ASCII. -/
theorem isOuterChar_of_isPlain {s : List Char} (h : isPlain (normalWords s) = true) :
    ∀ c ∈ s, isOuterChar c = true := by
  intro c hc
  cases hascii : isAscii c with
  | false => simp [isOuterChar, hascii]
  | true =>
      rcases Text.mem_words hc with hb | ⟨w, hw, hcw⟩
      · simp [isOuterChar, hb]
      · have hlower : c.toLower ∈ normalWords s :=
          Text.toLower_mem_lowerFrom hascii [] (Text.mem_unwords hcw hw)
        refine isOuterChar_of_toLower hascii ?_
        rw [isPlain, List.all_cons, List.all_nil, Bool.and_true]
        exact List.all_eq_true.mp h _ hlower

theorem isOuterChar_of_isGroupSize {s : List Char} (h : isGroupSize s = true) :
    ∀ c ∈ s, isOuterChar c = true := by
  have hblank : ∀ {b : List Char}, (∀ c ∈ b, isBlank c = true) → ∀ c ∈ b, isOuterChar c = true :=
    fun hb c hc => by simp [isOuterChar, hb c hc]
  have hdigit : ∀ c ∈ trim s, isOuterChar c = true := by
    intro c hc
    have hd : c.isDigit = true := List.all_eq_true.mp h c hc
    simp [isOuterChar, isIdentChar, Char.isAlphanum, hd]
  obtain ⟨b, e, hs, hb, he⟩ := Text.exists_trim s
  rw [hs]
  intro c hc
  simp only [List.mem_append] at hc
  rcases hc with (hc | hc) | hc
  · exact hblank hb c hc
  · exact hdigit c hc
  · exact hblank he c hc

theorem GroupRun.outer {gs : List (List Char)} {t : List Char} (h : GroupRun gs t)
    (hg : gs.all isGroupSize = true) : ∀ c ∈ t, isOuterChar c = true :=
  h.forall_mem (fun c hc => by simp [isOuterChar, hc]) (by decide) (by decide)
    (fun g hmem => isOuterChar_of_isGroupSize (List.all_eq_true.mp hg g hmem))

/-! ## 2. Another list -/

/-- The layout with another parameter list. -/
def Layout.withList (l : Layout) (p : List Char) : Layout := { l with parameters? := some p }

/-- What is asked of a list before it is cut into arguments. -/
structure IsList (p : List Char) : Prop where
  parens : noParens p = true
  brackets : noBrackets p = true

theorem Layout.stem_withList (l : Layout) (p : List Char) :
    (l.withList p).stem = l.base ++ ('(' :: p ++ [')']) ++ l.modifiers := rfl

theorem Layout.WellShaped.withList {l : Layout} (h : l.WellShaped) {p : List Char}
    (hp : IsList p) : (l.withList p).WellShaped where
  base := h.base
  parameters := fun q hq => by
    cases hq
    exact hp.parens
  modifiers := h.modifiers
  unlisted := fun hnone => by cases hnone

theorem noBrackets_withList {l : Layout} (h : noBrackets l.stem = true) {p : List Char}
    (hp : IsList p) : noBrackets (l.withList p).stem = true := by
  simp only [Layout.stem, noBrackets_append, Bool.and_eq_true] at h
  simp [Layout.stem_withList, h, hp.brackets]

/-- Behind a new list a text ends as it did, or with the list. -/
theorem getLast?_withList {l : Layout} {t : List Char}
    (h : ∀ c ∈ (l.stem ++ t).getLast?, isBlank c = false) (p : List Char) :
    ∀ c ∈ ((l.withList p).stem ++ t).getLast?, isBlank c = false := by
  intro c hc
  rw [Layout.stem_withList, List.append_assoc, List.getLast?_append] at hc
  rw [Layout.stem, List.append_assoc, List.getLast?_append] at h
  cases hrest : (l.modifiers ++ t).getLast? with
  | some d =>
      rw [hrest] at hc h
      exact h c hc
  | none =>
      rw [hrest, Option.none_or, List.getLast?_append, List.getLast?_concat] at hc
      cases hc
      decide

/-- The parts of a name do not depend on its list. -/
theorem ofLayout?_withList {name : List Char} {l : Layout} {n : SqlName}
    (h : ofLayout? name l = some n) {p : List Char} {arguments : List String}
    (hp : readArguments (some p) = some arguments) (name' : List Char) :
    ofLayout? name' (l.withList p) = some (n.relisted (String.ofList name') arguments) := by
  obtain ⟨base, parameters?, modifiers, groups⟩ := l
  change ofLayout? name' ⟨base, some p, modifiers, groups⟩ = _
  rw [ofLayout?] at h ⊢
  dsimp only at h ⊢
  split at h
  · rename_i hcond
    obtain ⟨as, -, rfl⟩ := Option.map_eq_some_iff.mp h
    rw [if_pos hcond, hp]
    rfl
  · cases h

/-- What reading a name finds out about its text. -/
theorem of_read {text : List Char} {n : SqlName} (h : read text = some n) :
    ∃ (l : Layout) (t : List Char), trim text = l.stem ++ t
      ∧ readArguments l.parameters? = some n.arguments
      ∧ (∀ c ∈ l.base ++ l.modifiers ++ t, isOuterChar c = true)
      ∧ ∀ p arguments, IsList p → readArguments (some p) = some arguments →
        ∃ name, read ((l.withList p).stem ++ t) = some (n.relisted name arguments) := by
  obtain ⟨l, hof, hn⟩ := Option.bind_eq_some_iff.mp h
  obtain ⟨⟨t, htext, hrun⟩, hshape, hflat, hlast⟩ := Layout.of_eq_some hof
  have hparts := hn
  rw [ofLayout?] at hparts
  split at hparts
  · rename_i hcond
    simp only [Bool.and_eq_true, Bool.not_eq_true'] at hcond
    obtain ⟨⟨⟨hgroups, hne⟩, hbase⟩, hmodifiers⟩ := hcond
    obtain ⟨as, has, rfl⟩ := Option.map_eq_some_iff.mp hparts
    refine ⟨l, t, htext, has, ?_, ?_⟩
    · intro c hc
      simp only [List.mem_append] at hc
      rcases hc with (hc | hc) | hc
      · exact isOuterChar_of_isPlain hbase c hc
      · exact isOuterChar_of_isPlain hmodifiers c hc
      · exact hrun.outer hgroups c hc
    · intro p arguments hp harguments
      have hbasene : l.base ≠ [] := by
        intro hnil
        rw [hnil] at hne
        exact absurd hne (by decide)
      have hend : ∀ c ∈ (l.stem ++ t).getLast?, isBlank c = false := by
        rw [← htext]
        exact fun _ => Text.getLast?_trim
      have hstart : ∀ c ∈ ((l.withList p).stem ++ t).head?, isBlank c = false := by
        obtain ⟨d, b, hd⟩ := List.exists_cons_of_ne_nil hbasene
        intro c hc
        refine Text.head?_trim (s := text) ?_
        rw [Layout.stem_withList, hd] at hc
        rw [htext, Layout.stem, hd]
        exact hc
      have htrim := Text.trim_eq_self hstart (getLast?_withList hend p)
      have hstem : ∀ c ∈ (l.withList p).stem.getLast?, isBlank c = false := by
        have hnew := getLast?_withList (l := l) (t := []) (by rwa [List.append_nil]) p
        rwa [List.append_nil] at hnew
      have hnew := Layout.of_stem (hshape.withList hp) (noBrackets_withList hflat hp) hstem hrun
      refine ⟨String.ofList ((l.withList p).stem ++ t), ?_⟩
      rw [read, htrim, hnew, Option.bind_some]
      exact ofLayout?_withList hn harguments _
  · cases hparts

end SqlName

/-! ## 3. Accepted names -/

namespace TypeMap

open SqlName (IsList isOuterChar readArguments)

/-- **What an accepted name holds.** Outside its list nothing but words, blanks
and groups, as far as ASCII goes. Its arguments are sizes where the row reads
sizes; elsewhere the name is accepted with any list. -/
theorem shape_of_accepted {dialect : Dialect} {text : List Char} {d : NativeDescriptor}
    (h : reverse? dialect text = some d) :
    ∃ (n : SqlName) (l : SqlName.Layout) (t : List Char),
      SqlName.read text = some n ∧ trim text = l.stem ++ t
      ∧ readArguments l.parameters? = some n.arguments
      ∧ (∀ c ∈ l.base ++ l.modifiers ++ t, isOuterChar c = true)
      ∧ (readsSizes dialect n = true → n.HasSizes)
      ∧ (readsSizes dialect n = false → ∀ p, IsList p → (readArguments (some p)).isSome →
        (reverse? dialect ((l.withList p).stem ++ t)).isSome = true) := by
  rw [reverse?, reverse] at h
  split at h
  · cases h
  · rename_i n hread
    obtain ⟨l, t, htext, harguments, houter, hlist⟩ := SqlName.of_read hread
    refine ⟨n, l, t, hread, htext, harguments, houter, ofName_sizes h, ?_⟩
    intro hrow p hp hsome
    obtain ⟨arguments, has⟩ := Option.isSome_iff_exists.mp hsome
    obtain ⟨name, hnew⟩ := hlist p arguments hp has
    rw [reverse?, reverse, hnew]
    exact ofName_relisted h hrow name arguments

theorem shape_of_accepted_intUnsigned :
    reverse? .mySql "int(10) unsigned".toList = some (.ofPrimitive .uint32) ∧
    ∃ (l : SqlName.Layout) (t : List Char),
      trim "int(10) unsigned".toList = l.stem ++ t
        ∧ (∀ c ∈ l.base ++ l.modifiers ++ t, isOuterChar c = true)
        ∧ (reverse? .mySql ((l.withList "\x27;--".toList).stem ++ t)).isSome = true := by
  have h : reverse? .mySql "int(10) unsigned".toList = some (.ofPrimitive .uint32) := by
    decide +kernel
  have hn : SqlName.read "int(10) unsigned".toList
      = some ⟨"int(10) unsigned", "int", ["10"], "unsigned", 0⟩ := by decide +kernel
  obtain ⟨n, l, t, hread, htext, -, houter, -, hany⟩ := shape_of_accepted h
  rw [hn] at hread
  cases hread
  exact ⟨h, l, t, htext, houter,
    hany (by decide +kernel) _ ⟨by decide, by decide⟩ (by decide +kernel)⟩

/-- A row that does not look at its arguments accepts one that would end a
statement. -/
theorem accepts_hostileArgument :
    reverse? .mySql "int(\x27;--)".toList = some (.ofPrimitive .int32)
      ∧ SqlName.read "int(\x27;--)".toList
        = some ⟨"int(\x27;--)", "int", ["\x27;--"], "", 0⟩
      ∧ isSizeText "\x27;--".toList = false
      ∧ SqlName.isIdentifier "\x27;--".toList = false := by
  decide +kernel

end TypeMap

end SqlAtlas
