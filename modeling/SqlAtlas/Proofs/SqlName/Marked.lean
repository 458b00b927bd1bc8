/-
SqlAtlas.Proofs.SqlName.Marked — a name with an array mark: an underscore in
front of it, or a pair of brackets behind it.

Both marks leave the rest of the name as it is. An underscore is a character of
the base (`read_underscore`), since it is no blank, no parenthesis and no letter
that a sigma could lean on; brackets are a dimension (`read_brackets`). So a text
without brackets of its own is taken apart into the same parts either way. The
one exception is a text without a base: the underscore is a base by itself then,
and the brackets have none.
-/
import SqlAtlas.Proofs.SqlName.Layout
import SqlAtlas.Proofs.Text.LowerCase
import SqlAtlas.Proofs.Text.Words
import SqlAtlas.SqlName

namespace SqlAtlas

open Text (isBlank trim)

theorem normalWords_underscore {s : List Char} (h : ∀ c ∈ s.head?, isBlank c = false) :
    normalWords ('_' :: s) = '_' :: normalWords s := by
  rw [normalWords, Text.unwords_words_cons (by decide) h, Text.lowerCase_underscore]
  rfl

namespace SqlName

/-! ## 1. Layouts -/

theorem ofGroupless_groups (s : List Char) (gs : List (List Char)) :
    ofGroupless s gs = (ofGroupless s []).map (fun l => { l with groups := gs }) := by
  rw [ofGroupless, ofGroupless]
  dsimp only
  split
  · split <;> rfl
  · split
    · rfl
    · split <;> rfl

theorem ofGroupless_underscore (s : List Char) (gs : List (List Char)) :
    ofGroupless ('_' :: s) gs
      = (ofGroupless s gs).map (fun l => { l with base := '_' :: l.base }) := by
  have hbase : ∀ b : List Char, noParens ('_' :: b) = noParens b := fun b => rfl
  rw [ofGroupless, ofGroupless, List.takeWhile_cons_of_pos (by decide),
      List.dropWhile_cons_of_pos (by decide)]
  simp only [hbase]
  split
  · split <;> rfl
  · split
    · rfl
    · split <;> rfl

/-- What makes a layout a name: sizes between its brackets, and plain words of
which its base has one. -/
structure Layout.IsName (l : Layout) : Prop where
  groups : l.groups.all isGroupSize = true
  nonempty : normalWords l.base ≠ []
  base : isPlain (normalWords l.base) = true
  modifiers : isPlain (normalWords l.modifiers) = true

theorem ofLayout?_eq_some_iff {name : List Char} {l : Layout} {n : SqlName} :
    ofLayout? name l = some n ↔ l.IsName ∧ ∃ arguments, readArguments l.parameters? = some arguments
      ∧ n = ⟨String.ofList name, String.ofList (normalWords l.base), arguments,
          String.ofList (normalWords l.modifiers), l.groups.length⟩ := by
  have hcond : (l.groups.all isGroupSize && !(normalWords l.base).isEmpty
      && isPlain (normalWords l.base) && isPlain (normalWords l.modifiers)) = true ↔ l.IsName := by
    simp only [Bool.and_eq_true, Bool.not_eq_true', List.isEmpty_eq_false_iff]
    exact ⟨fun h => ⟨h.1.1.1, h.1.1.2, h.1.2, h.2⟩,
      fun h => ⟨⟨⟨h.groups, h.nonempty⟩, h.base⟩, h.modifiers⟩⟩
  rw [ofLayout?]
  constructor
  · intro h
    split at h
    · rename_i hname
      obtain ⟨arguments, harguments, rfl⟩ := Option.map_eq_some_iff.mp h
      exact ⟨hcond.mp hname, arguments, harguments, rfl⟩
    · cases h
  · rintro ⟨hname, arguments, harguments, rfl⟩
    rw [if_pos (hcond.mpr hname), harguments]
    rfl

section

variable {x : List Char} (hx : ∀ c ∈ x.head?, isBlank c = false) (hflat : noBrackets x = true)

include hx hflat

theorem noBrackets_trim : noBrackets (trim x) = true := by
  obtain ⟨e, hxe, -⟩ := Text.exists_trim_of_head hx
  rw [hxe, noBrackets_append, Bool.and_eq_true] at hflat
  exact hflat.1

theorem layout_trim : Layout.of (trim x) = ofGroupless (trim x) [] := by
  have hof := Layout.of_append (noBrackets_trim hx hflat) (fun _ => Text.getLast?_trim) .nil
  rwa [List.append_nil] at hof

theorem layout_underscore : trim ('_' :: x) = '_' :: trim x
    ∧ Layout.of ('_' :: trim x) = ofGroupless ('_' :: trim x) [] := by
  obtain ⟨e, hxe, he⟩ := Text.exists_trim_of_head hx
  have hlast : ∀ c ∈ ('_' :: trim x).getLast?, isBlank c = false := by
    intro c hc
    rw [List.getLast?_cons, Option.mem_def, Option.some.injEq] at hc
    cases hl : (trim x).getLast? with
    | none =>
        rw [hl] at hc
        rw [← hc]
        decide
    | some d =>
        rw [hl] at hc
        rw [← hc]
        exact Text.getLast?_trim hl
  constructor
  · have hhead : ∀ c ∈ ('_' :: trim x).head?, isBlank c = false := by
      intro c hc
      cases hc
      decide
    have htrim := Text.trim_append_blanks ('_' :: trim x) he
    rwa [Text.trim_eq_self hhead hlast, List.cons_append, ← hxe] at htrim
  · have hof := Layout.of_append (s := '_' :: trim x)
      (by rw [noBrackets_cons, noBrackets_trim hx hflat]; rfl) hlast .nil
    rwa [List.append_nil] at hof

theorem layout_brackets : trim (x ++ ['[', ']']) = x ++ ['[', ']']
    ∧ Layout.of (x ++ ['[', ']']) = ofGroupless (trim x) [[]] := by
  obtain ⟨e, hxe, he⟩ := Text.exists_trim_of_head hx
  constructor
  · refine Text.trim_eq_self (fun c hc => ?_) (fun c hc => ?_)
    · cases hxs : x with
      | nil =>
          rw [hxs] at hc
          cases hc
          decide
      | cons d r =>
          rw [hxs] at hc
          exact hx c (by rw [hxs]; exact hc)
    · rw [List.getLast?_append] at hc
      cases hc
      decide
  · have hrun : GroupRun [[]] ([] ++ e ++ '[' :: [] ++ [']']) :=
      (GroupRun.nil.append_blanks he).group List.not_mem_nil
    have hof := Layout.of_append (noBrackets_trim hx hflat) (fun _ => Text.getLast?_trim) hrun
    have hxs : x ++ ['[', ']'] = trim x ++ ([] ++ e ++ '[' :: [] ++ [']']) := by
      conv => lhs; rw [hxe]
      simp
    rw [hxs]
    exact hof

/-! ## 2. Names -/

/-- **Brackets behind a name are one dimension**, and a text that is no name
stays none. -/
theorem read_brackets : read (x ++ ['[', ']']) = (read x).map
    (fun n => { n with name := String.ofList (x ++ ['[', ']']), dimensions := 1 }) := by
  obtain ⟨htrim, hlayout⟩ := layout_brackets hx hflat
  rw [read, htrim, hlayout, ofGroupless_groups, read, layout_trim hx hflat]
  cases hl : ofGroupless (trim x) [] with
  | none => rfl
  | some l =>
      obtain ⟨-, hgroups, -⟩ := ofGroupless_eq_some hl
      have hname : Layout.IsName { l with groups := [[]] } ↔ l.IsName :=
        ⟨fun h => ⟨by rw [hgroups]; rfl, h.nonempty, h.base, h.modifiers⟩,
          fun h => ⟨rfl, h.nonempty, h.base, h.modifiers⟩⟩
      ext n
      simp only [Option.map_some, Option.bind_some, Option.map_eq_some_iff, ofLayout?_eq_some_iff,
        hname]
      constructor
      · rintro ⟨h, arguments, harguments, rfl⟩
        exact ⟨_, ⟨h, arguments, harguments, rfl⟩, rfl⟩
      · rintro ⟨m, ⟨h, arguments, harguments, rfl⟩, rfl⟩
        exact ⟨h, arguments, harguments, rfl⟩

/-- **An underscore in front of a name is a character of its base.** In front of
a text that is no name it makes none, unless it is the base. -/
theorem read_underscore :
    (∀ n, read x = some n → n.dimensions = 0 ∧ n.base ≠ ""
        ∧ ∃ name, read ('_' :: x)
            = some { n with name := name, base := String.ofList ('_' :: n.base.toList) })
      ∧ (read x = none → ∀ n, read ('_' :: x) = some n → n.base = "_") := by
  obtain ⟨htrim, hlayout⟩ := layout_underscore hx hflat
  rw [read, layout_trim hx hflat, read, htrim, hlayout, ofGroupless_underscore]
  cases hl : ofGroupless (trim x) [] with
  | none =>
      constructor
      · rintro n ⟨⟩
      · rintro - n ⟨⟩
  | some l =>
      obtain ⟨hstem, hgroups, -⟩ := ofGroupless_eq_some hl
      have hhead : ∀ c ∈ l.base.head?, isBlank c = false := by
        intro c hc
        refine Text.head?_trim (s := x) ?_
        rw [hstem, Layout.stem, List.append_assoc, List.head?_append, Option.mem_def.mp hc]
        rfl
      have hwords := normalWords_underscore hhead
      simp only [Option.map_some, Option.bind_some]
      constructor
      · intro n hn
        obtain ⟨h, arguments, harguments, rfl⟩ := ofLayout?_eq_some_iff.mp hn
        have hne : String.ofList (normalWords l.base) ≠ "" := by simpa using h.nonempty
        refine ⟨by rw [hgroups]; rfl, hne, String.ofList ('_' :: trim x), ?_⟩
        refine ofLayout?_eq_some_iff.mpr ⟨⟨h.groups, ?_, ?_, h.modifiers⟩, arguments, harguments, ?_⟩
        · rw [hwords]
          exact List.cons_ne_nil _ _
        · rw [hwords]
          exact h.base
        · rw [hwords, String.toList_ofList]
      · intro hnone n hn
        obtain ⟨h, arguments, harguments, rfl⟩ := ofLayout?_eq_some_iff.mp hn
        obtain ⟨hsizes, -, hplain, hmodifiers⟩ := h
        simp only [hwords] at hplain ⊢
        by_cases hbase : normalWords l.base = []
        · rw [hbase]
        · have hname : l.IsName := ⟨hsizes, hbase, hplain, hmodifiers⟩
          rw [ofLayout?_eq_some_iff.mpr ⟨hname, arguments, harguments, rfl⟩] at hnone
          cases hnone

end

end SqlName

end SqlAtlas
