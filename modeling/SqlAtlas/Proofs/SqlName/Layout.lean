/-
SqlAtlas.Proofs.SqlName.Layout — a name is its layout, written down.

Reading a layout loses nothing but the blanks around the bracket groups. The
text in front of the groups is the layout's `stem`, character by character,
and the groups stand behind it with blanks between them (`GroupRun`).
`Layout.of_eq_some` says so for every name that has a layout, and adds what
the shape guarantees: no part holds a parenthesis, the stem holds no bracket,
and it does not end in a blank. `Layout.of_stem` is the way back: whatever is
written down in this shape has the layout it was written from.
-/
import Mathlib.Data.List.TakeWhile
import SqlAtlas.Proofs.Text.Blank
import SqlAtlas.SqlName.Layout

namespace SqlAtlas.SqlName

open Text (IsBlanks isBlank)

/-! ## 1. The statement -/

/-- Bracket groups one after the other, in reading order, with blanks before,
between and behind them. -/
inductive GroupRun : List (List Char) → List Char → Prop
  | nil : GroupRun [] []
  | blank {gs : List (List Char)} {t : List Char} {c : Char} (h : GroupRun gs t)
      (hc : isBlank c = true) : GroupRun gs (t ++ [c])
  | group {gs : List (List Char)} {t content : List Char} (h : GroupRun gs t)
      (hc : '[' ∉ content) : GroupRun (gs ++ [content]) (t ++ '[' :: content ++ [']'])

/-- The parameter list as it stands in the text, or nothing. -/
def Layout.listText (l : Layout) : List Char :=
  match l.parameters? with
  | none => []
  | some parameters => '(' :: parameters ++ [')']

/-- The text of a layout in front of its groups. -/
def Layout.stem (l : Layout) : List Char := l.base ++ l.listText ++ l.modifiers

/-- What the parts of a layout leave to the shape: parentheses stand around the
parameters only, and modifiers only behind a list. -/
structure Layout.WellShaped (l : Layout) : Prop where
  base : noParens l.base = true
  parameters : ∀ p ∈ l.parameters?, noParens p = true
  modifiers : noParens l.modifiers = true
  unlisted : l.parameters? = none → l.modifiers = []

/-! ## 2. Bracket groups -/

/-- Blanks go on with a run of groups. -/
theorem GroupRun.append_blanks {gs : List (List Char)} {t b : List Char} (h : GroupRun gs t)
    (hb : IsBlanks b) : GroupRun gs (t ++ b) := by
  induction b generalizing t with
  | nil => rwa [List.append_nil]
  | cons c b ih =>
      obtain ⟨hc, hb⟩ := List.forall_mem_cons.mp hb
      have hnext := ih (h.blank hc) hb
      rwa [List.append_assoc] at hnext

/-- What holds of blanks, of brackets and of what the groups hold, holds of every
character of a run. -/
theorem GroupRun.forall_mem {p : Char → Prop} (hblank : ∀ c, isBlank c = true → p c)
    (hopen : p '[') (hclose : p ']') {gs : List (List Char)} {t : List Char} (h : GroupRun gs t)
    (hg : ∀ g ∈ gs, ∀ c ∈ g, p c) : ∀ c ∈ t, p c := by
  induction h with
  | nil => exact List.forall_mem_nil _
  | blank h hc ih =>
      intro c hmem
      rcases List.mem_append.mp hmem with hmem | hmem
      · exact ih hg c hmem
      · rw [List.mem_singleton.mp hmem]
        exact hblank _ hc
  | @group gs t content h _ ih =>
      intro c hmem
      simp only [List.mem_append, List.mem_cons, List.not_mem_nil, or_false] at hmem
      rcases hmem with (hmem | rfl | hmem) | rfl
      · exact ih (fun g hgs => hg g (List.mem_append_left _ hgs)) c hmem
      · exact hopen
      · exact hg content (by simp) c hmem
      · exact hclose

@[simp] theorem noBrackets_nil : noBrackets [] = true := rfl

@[simp] theorem noBrackets_append (s t : List Char) :
    noBrackets (s ++ t) = (noBrackets s && noBrackets t) := List.all_append

@[simp] theorem noBrackets_cons (c : Char) (s : List Char) :
    noBrackets (c :: s) = (decide (c ≠ '[' ∧ c ≠ ']') && noBrackets s) := by
  simp [noBrackets, Bool.decide_and]

mutual

/-- What is taken off a text that is read backwards is a run of groups. -/
theorem takeGroups_none : ∀ {r rest : List Char} {gs : List (List Char)},
    takeGroups none r = some (rest, gs) →
      ∃ t, r.reverse = rest.reverse ++ t ∧ GroupRun gs t
        ∧ ∀ c ∈ rest.head?, isBlank c = false
  | [], rest, gs, h => by
      cases h
      exact ⟨[], rfl, .nil, by simp⟩
  | c :: r, rest, gs, h => by
      rw [takeGroups] at h
      split at h
      · rename_i hblank
        obtain ⟨t, hr, hrun, hrest⟩ := takeGroups_none h
        exact ⟨t ++ [c], by rw [List.reverse_cons, hr, List.append_assoc], hrun.blank hblank, hrest⟩
      · rename_i hblank
        split at h
        · rename_i hclose
          obtain ⟨t, front, gs', hr, hrun, hopen, rfl, hrest⟩ := takeGroups_some h
          rw [List.append_nil]
          refine ⟨t ++ '[' :: front ++ [']'], ?_, hrun.group hopen, hrest⟩
          rw [List.reverse_cons, hr, hclose]
          simp only [List.append_assoc, List.cons_append]
        · cases h
          refine ⟨[], by rw [List.append_nil], .nil, ?_⟩
          simpa using hblank

/-- What is taken off inside a group completes the group first. -/
theorem takeGroups_some : ∀ {r rest content : List Char} {gs : List (List Char)},
    takeGroups (some content) r = some (rest, gs) →
      ∃ t front gs', r.reverse = rest.reverse ++ (t ++ '[' :: front) ∧ GroupRun gs' t
        ∧ '[' ∉ front ∧ gs = gs' ++ [front ++ content] ∧ ∀ c ∈ rest.head?, isBlank c = false
  | [], rest, content, gs, h => by cases h
  | c :: r, rest, content, gs, h => by
      rw [takeGroups] at h
      split at h
      · rename_i hopen
        split at h
        · rename_i rest' gs' htake
          cases h
          obtain ⟨t, hr, hrun, hrest⟩ := takeGroups_none htake
          refine ⟨t, [], gs', ?_, hrun, by simp, rfl, hrest⟩
          rw [List.reverse_cons, hr, hopen, List.append_assoc]
        · cases h
      · rename_i hopen
        obtain ⟨t, front, gs', hr, hrun, hfront, rfl, hrest⟩ := takeGroups_some h
        refine ⟨t, front ++ [c], gs', ?_, hrun, ?_, by simp, hrest⟩
        · rw [List.reverse_cons, hr]
          simp only [List.append_assoc, List.cons_append]
        · simp [hfront, Ne.symm hopen]

end

/-! ## 3. Names that have a layout -/

theorem takeWhile_append_cons_of_dropWhile {p : Char → Bool} {s r : List Char} {c : Char}
    (h : s.dropWhile p = c :: r) : s = s.takeWhile p ++ c :: r := by
  rw [← h, List.takeWhile_append_dropWhile]

/-- What is found at the head of a text from which other characters have been
dropped. -/
theorem eq_of_dropWhile_ne {s r : List Char} {c d : Char} (h : s.dropWhile (· ≠ d) = c :: r) :
    c = d := by
  have hnot := List.head?_dropWhile_not (fun x => decide (x ≠ d)) s
  rw [h] at hnot
  simpa using hnot

/-- A text without groups is split into parts that make it up again. -/
theorem ofGroupless_eq_some {s : List Char} {gs : List (List Char)} {l : Layout}
    (h : ofGroupless s gs = some l) : s = l.stem ∧ l.groups = gs ∧ l.WellShaped := by
  rw [ofGroupless] at h
  dsimp only at h
  split at h
  · rename_i hnone
    split at h
    · rename_i hbase
      have hall : s.takeWhile (· ≠ '(') = s :=
        List.takeWhile_eq_self_iff.mpr (List.dropWhile_eq_nil_iff.mp hnone)
      cases h
      refine ⟨?_, rfl, hbase, by simp, rfl, fun _ => rfl⟩
      simp only [Layout.stem, Layout.listText, List.append_nil]
      exact hall.symm
    · cases h
  · rename_i c r hopen
    split at h
    · cases h
    · rename_i d modifiers hclose
      split at h
      · rename_i hflat
        simp only [Bool.and_eq_true] at hflat
        cases h
        refine ⟨?_, rfl, hflat.1.1, ?_, hflat.2, by simp⟩
        · have hs := takeWhile_append_cons_of_dropWhile hopen
          have hr := takeWhile_append_cons_of_dropWhile hclose
          rw [eq_of_dropWhile_ne hopen] at hs
          rw [eq_of_dropWhile_ne hclose] at hr
          simp only [Layout.stem, Layout.listText]
          rw [List.append_assoc, List.cons_append, List.cons_append, List.append_assoc,
              List.singleton_append, ← hr]
          exact hs
        · intro p hp
          cases hp
          exact hflat.1.2
      · cases h

/-- **A name that has a layout is its layout, written down.** -/
theorem Layout.of_eq_some {name : List Char} {l : Layout} (h : Layout.of name = some l) :
    (∃ t, name = l.stem ++ t ∧ GroupRun l.groups t) ∧ l.WellShaped ∧ noBrackets l.stem = true
      ∧ ∀ c ∈ l.stem.getLast?, isBlank c = false := by
  rw [Layout.of] at h
  split at h
  · cases h
  · rename_i rest gs htake
    split at h
    · rename_i hflat
      obtain ⟨t, hname, hrun, hrest⟩ := takeGroups_none htake
      obtain ⟨hstem, rfl, hshape⟩ := ofGroupless_eq_some h
      rw [List.reverse_reverse, hstem] at hname
      refine ⟨⟨t, hname, hrun⟩, hshape, ?_, ?_⟩
      · rw [← hstem, noBrackets, List.all_reverse]
        exact hflat
      · rw [← hstem, List.getLast?_reverse]
        exact hrest
    · cases h

/-! ## 4. Layouts that are written down -/

/-- A group that is open is completed by what it holds. -/
theorem takeGroups_content : ∀ {s : List Char}, '[' ∉ s → ∀ content r : List Char,
    takeGroups (some content) (s ++ '[' :: r)
      = (takeGroups none r).map (fun p => (p.1, p.2 ++ [s.reverse ++ content]))
  | [], _, content, r => by
      simp only [List.nil_append, takeGroups, if_pos]
      cases takeGroups none r <;> rfl
  | c :: s, h, content, r => by
      have hc : c ≠ '[' := fun hc => h (by rw [hc]; exact List.mem_cons_self)
      have hs : '[' ∉ s := fun hs => h (List.mem_cons_of_mem c hs)
      rw [List.cons_append, takeGroups, if_neg hc, takeGroups_content hs]
      simp only [List.reverse_cons, List.append_assoc, List.singleton_append]

/-- A run of groups is taken off whatever stands in front of it. -/
theorem takeGroups_run {gs : List (List Char)} {t : List Char} (h : GroupRun gs t)
    (r : List Char) :
    takeGroups none (t.reverse ++ r)
      = (takeGroups none r).map (fun p => (p.1, p.2 ++ gs)) := by
  induction h with
  | nil => simp
  | blank h hc ih =>
      rw [List.reverse_append, List.reverse_singleton, List.singleton_append, List.cons_append,
          takeGroups, if_pos hc, ih]
  | @group gs t content h hc ih =>
      have hrev : (t ++ '[' :: content ++ [']']).reverse ++ r
          = ']' :: (content.reverse ++ '[' :: (t.reverse ++ r)) := by simp
      have hcontent : '[' ∉ content.reverse := by simpa using hc
      rw [hrev, takeGroups, if_neg (by decide), if_pos rfl, takeGroups_content hcontent, ih,
          Option.map_map]
      simp [Function.comp_def]

/-- The text in front of the groups is split where its list stands. -/
theorem ofGroupless_stem {l : Layout} (h : l.WellShaped) :
    ofGroupless l.stem l.groups = some l := by
  obtain ⟨base, parameters?, modifiers, groups⟩ := l
  have hbase := h.base
  have hmodifiers := h.modifiers
  have hopen : ∀ c ∈ base, decide (c ≠ '(') = true := by
    intro c hc
    have hflat := List.all_eq_true.mp hbase c hc
    simp only [Bool.and_eq_true] at hflat
    exact hflat.1
  cases parameters? with
  | none =>
      obtain rfl := h.unlisted rfl
      rw [Layout.stem, Layout.listText, List.append_nil, List.append_nil, ofGroupless,
          List.takeWhile_eq_self_iff.mpr hopen, List.dropWhile_eq_nil_iff.mpr hopen]
      simp only [hbase, if_true]
  | some p =>
      have hp := h.parameters p rfl
      have hclose : ∀ c ∈ p, decide (c ≠ ')') = true := by
        intro c hc
        have hflat := List.all_eq_true.mp hp c hc
        simp only [Bool.and_eq_true] at hflat
        exact hflat.2
      have hstem : Layout.stem ⟨base, some p, modifiers, groups⟩
          = base ++ '(' :: (p ++ ')' :: modifiers) := by
        simp [Layout.stem, Layout.listText]
      rw [hstem, ofGroupless, List.takeWhile_append_of_pos hopen,
          List.dropWhile_append_of_pos hopen]
      simp only [List.takeWhile_cons, List.dropWhile_cons, ne_eq, not_true_eq_false, decide_false,
        Bool.false_eq_true, if_false, List.append_nil]
      rw [List.takeWhile_append_of_pos hclose, List.dropWhile_append_of_pos hclose]
      simp only [List.takeWhile_cons, List.dropWhile_cons, ne_eq, not_true_eq_false, decide_false,
        Bool.false_eq_true, if_false, List.append_nil]
      rw [hbase, hp, hmodifiers]
      rfl

/-- Nothing is taken off a text that ends in another character. -/
theorem takeGroups_of_getLast? {s : List Char} {c : Char} (h : s.getLast? = some c)
    (hb : isBlank c = false) (hc : c ≠ ']') : takeGroups none s.reverse = some (s.reverse, []) := by
  obtain ⟨r, rfl⟩ := List.getLast?_eq_some_iff.mp h
  simp [takeGroups, hb, hc]

/-- A text without brackets in front of a run of groups is split by itself. -/
theorem Layout.of_append {s : List Char} (hflat : noBrackets s = true)
    (hlast : ∀ c ∈ s.getLast?, isBlank c = false) {gs : List (List Char)} {t : List Char}
    (ht : GroupRun gs t) : Layout.of (s ++ t) = ofGroupless s gs := by
  have htake : takeGroups none s.reverse = some (s.reverse, []) := by
    cases hc : s.getLast? with
    | none => rw [List.getLast?_eq_none_iff.mp hc]; rfl
    | some c =>
        have hin := List.all_eq_true.mp hflat c (List.mem_of_getLast? hc)
        simp only [Bool.and_eq_true, decide_eq_true_eq] at hin
        exact takeGroups_of_getLast? hc (hlast c hc) hin.2
  have hrev : noBrackets s.reverse = true := by
    rw [noBrackets, List.all_reverse]
    exact hflat
  rw [Layout.of, List.reverse_append, takeGroups_run ht, htake]
  simp only [Option.map_some, List.nil_append, hrev, List.reverse_reverse, if_true]

/-- **A layout that is written down is read again.** -/
theorem Layout.of_stem {l : Layout} (hshape : l.WellShaped) (hflat : noBrackets l.stem = true)
    (hlast : ∀ c ∈ l.stem.getLast?, isBlank c = false) {t : List Char}
    (ht : GroupRun l.groups t) : Layout.of (l.stem ++ t) = some l := by
  rw [Layout.of_append hflat hlast ht, ofGroupless_stem hshape]

end SqlAtlas.SqlName
