/-
SqlAtlas.Proofs.Text.Nesting — where a text is cut.

`Depth.behind` is the depth at the end of a text. A text in which no delimiter
stands outside all nesting is `Uncut`: in front of any other text it stays in
one piece (`cut_append`), and if it leaves nothing open, a delimiter behind it
ends this piece (`cut_append_delimiter`). The delimiters are flat, that is,
they are no parentheses and no brackets themselves.

Blanks are flat and no delimiters. Those around a text go to its first and its
last piece, where they are trimmed (`map_trim_cut_trim`).
-/
import SqlAtlas.Proofs.Text.Blank
import SqlAtlas.Text.Nesting

namespace SqlAtlas.Text

/-! ## 1. Depth -/

/-- A character that neither opens nor closes anything. -/
def isFlat (c : Char) : Bool := c ≠ '(' && c ≠ ')' && c ≠ '[' && c ≠ ']'

theorem isFlat_iff {c : Char} : isFlat c = true ↔ c ≠ '(' ∧ c ≠ ')' ∧ c ≠ '[' ∧ c ≠ ']' := by
  simp [isFlat, and_assoc]

/-- A property that no opener and no closer has keeps a character flat. -/
theorem isFlat_of {p : Char → Bool} (hp : ∀ c ∈ ['(', ')', '[', ']'], p c = false) {c : Char}
    (h : p c = true) : isFlat c = true := by
  refine isFlat_iff.mpr ⟨?_, ?_, ?_, ?_⟩ <;> (rintro rfl; rw [hp _ (by simp)] at h; cases h)

theorem isFlat_of_isBlank {c : Char} (h : isBlank c = true) : isFlat c = true :=
  isFlat_of (by decide) h

theorem Depth.after_flat (d : Depth) {c : Char} (h : isFlat c = true) : d.after c = d := by
  obtain ⟨h1, h2, h3, h4⟩ := isFlat_iff.mp h
  simp [Depth.after, h1, h2, h3, h4]

/-- The depth behind a text. -/
def Depth.behind (d : Depth) (s : List Char) : Depth := s.foldl Depth.after d

@[simp] theorem Depth.behind_nil (d : Depth) : d.behind [] = d := rfl

@[simp] theorem Depth.behind_cons (d : Depth) (c : Char) (s : List Char) :
    d.behind (c :: s) = (d.after c).behind s := rfl

theorem Depth.behind_append (d : Depth) (s t : List Char) :
    d.behind (s ++ t) = (d.behind s).behind t := List.foldl_append

theorem Depth.behind_flat (d : Depth) {s : List Char} (h : ∀ c ∈ s, isFlat c = true) :
    d.behind s = d := by
  induction s with
  | nil => rfl
  | cons c s ih =>
      obtain ⟨hc, hs⟩ := List.forall_mem_cons.mp h
      rw [Depth.behind_cons, Depth.after_flat d hc, ih hs]

theorem Depth.cuts_iff {d : Depth} {ds : List Char} {c : Char} :
    d.cuts ds c = true ↔ d = .zero ∧ c ∈ ds := by
  cases d
  simp [Depth.cuts, Depth.zero]

/-! ## 2. Pieces -/

/-- A text from depth `d` on in which no delimiter stands outside all
nesting. -/
def Uncut (ds : List Char) (d : Depth) (s : List Char) : Prop :=
  ∀ x c y, s = x ++ c :: y → c ∈ ds → d.behind x ≠ .zero

theorem Uncut.of_not_mem {ds s : List Char} (h : ∀ c ∈ s, c ∉ ds) (d : Depth) : Uncut ds d s := by
  rintro x c y rfl hc
  exact absurd hc (h c (by simp))

theorem uncut_cons_iff {ds : List Char} {d : Depth} {c : Char} {s : List Char} :
    Uncut ds d (c :: s) ↔ (c ∈ ds → d ≠ .zero) ∧ Uncut ds (d.after c) s := by
  constructor
  · refine fun h => ⟨h [] c s rfl, ?_⟩
    rintro x e y rfl he
    exact h (c :: x) e y rfl he
  · rintro ⟨hc, hs⟩ x e y hx he
    cases x with
    | nil =>
        cases hx
        exact hc he
    | cons c x =>
        cases hx
        exact hs x e y rfl he

theorem Uncut.append {ds : List Char} {d : Depth} {s t : List Char} (hs : Uncut ds d s)
    (ht : Uncut ds (d.behind s) t) : Uncut ds d (s ++ t) := by
  induction s generalizing d with
  | nil => exact ht
  | cons c s ih =>
      obtain ⟨hc, hs⟩ := uncut_cons_iff.mp hs
      exact uncut_cons_iff.mpr ⟨hc, ih hs ht⟩

/-- Where something is open, flat characters may be delimiters. -/
theorem Uncut.of_open {ds : List Char} {d : Depth} (hd : d ≠ .zero) {s : List Char}
    (h : ∀ c ∈ s, isFlat c = true) : Uncut ds d s := by
  rintro x c y rfl _
  rwa [Depth.behind_flat d (fun e he => h e (List.mem_append_left _ he))]

instance decidableUncut (ds : List Char) : ∀ (d : Depth) (s : List Char), Decidable (Uncut ds d s)
  | _, [] => isTrue (fun x c y h => by simp at h)
  | d, c :: s =>
      haveI := decidableUncut ds (d.after c) s
      decidable_of_iff _ uncut_cons_iff.symm

theorem exists_cut (ds : List Char) (d : Depth) (s : List Char) :
    ∃ p ps, cut ds d s = p :: ps := by
  cases s with
  | nil => exact ⟨[], [], rfl⟩
  | cons c s =>
      rw [cut]
      split
      · exact ⟨[], _, rfl⟩
      · cases cut ds (d.after c) s with
        | nil => exact ⟨[c], [], rfl⟩
        | cons p ps => exact ⟨c :: p, ps, rfl⟩

/-- Without openers and closers a text is cut at every delimiter. -/
theorem cut_eq_pieces {ds : List Char} : ∀ {s : List Char}, (∀ c ∈ s, isFlat c = true) →
    cut ds .zero s = pieces (fun c => ds.contains c) s
  | [], _ => rfl
  | c :: s, h => by
      obtain ⟨hc, hs⟩ := List.forall_mem_cons.mp h
      rw [cut, pieces, Depth.after_flat _ hc, cut_eq_pieces hs]
      rfl

/-- The tokens are the pieces that are not blank, trimmed. -/
theorem splitOutside_eq (ds s : List Char) :
    splitOutside ds s = ((cut ds .zero s).filter (fun p => ¬ IsBlanks p)).map trim := by
  rw [splitOutside, List.filter_map]
  congr 1
  refine List.filter_congr (fun p _ => ?_)
  have hblank : (trim p).isEmpty = decide (IsBlanks p) := by
    rw [Bool.eq_iff_iff, List.isEmpty_iff, trim_eq_nil_iff, decide_eq_true_eq]
  rw [Function.comp_apply, hblank, decide_not]

variable {ds : List Char} (hds : ∀ c ∈ ds, isFlat c = true)

include hds

/-- **A text that is not cut stays in the first piece** of what follows. -/
theorem cut_append {d : Depth} {s rest : List Char} (h : Uncut ds d s) {p : List Char}
    {ps : List (List Char)} (hrest : cut ds (d.behind s) rest = p :: ps) :
    cut ds d (s ++ rest) = (s ++ p) :: ps := by
  induction s generalizing d with
  | nil => exact hrest
  | cons c s ih =>
      obtain ⟨hc, hs⟩ := uncut_cons_iff.mp h
      have hcuts : ¬ (d.after c).cuts ds c = true := by
        rw [Depth.cuts_iff]
        rintro ⟨hzero, hmem⟩
        rw [Depth.after_flat d (hds c hmem)] at hzero
        exact hc hmem hzero
      rw [List.cons_append, cut, if_neg hcuts, ih hs hrest]
      rfl

theorem cut_of_uncut {d : Depth} {s : List Char} (h : Uncut ds d s) : cut ds d s = [s] := by
  have hend : cut ds (d.behind s) [] = [[]] := rfl
  have hcut := cut_append hds h hend
  rwa [List.append_nil] at hcut

/-- A delimiter behind a text that leaves nothing open ends its piece. -/
theorem cut_append_delimiter {s : List Char} (h : Uncut ds .zero s)
    (hzero : Depth.zero.behind s = .zero) {c : Char} (hc : c ∈ ds) (rest : List Char) :
    cut ds .zero (s ++ c :: rest) = s :: cut ds .zero rest := by
  have hrest : cut ds (Depth.zero.behind s) (c :: rest) = [] :: cut ds .zero rest := by
    rw [hzero, cut, Depth.after_flat _ (hds c hc), Depth.cuts_iff.mpr ⟨rfl, hc⟩]
    rfl
  rw [cut_append hds h hrest, List.append_nil]

/-- A text without delimiters stays in the last piece of what is in front of
it. -/
theorem exists_cut_append {e : List Char} (he : ∀ c ∈ e, c ∉ ds) (d : Depth) (s : List Char) :
    ∃ ps p, cut ds d s = ps ++ [p] ∧ cut ds d (s ++ e) = ps ++ [p ++ e] := by
  induction s generalizing d with
  | nil => exact ⟨[], [], rfl, cut_of_uncut hds (.of_not_mem he d)⟩
  | cons c s ih =>
      obtain ⟨ps, p, hs, hse⟩ := ih (d.after c)
      rw [List.cons_append, cut, cut, hs, hse]
      split
      · exact ⟨[] :: ps, p, rfl, rfl⟩
      · cases ps with
        | nil => exact ⟨[], c :: p, rfl, rfl⟩
        | cons q ps => exact ⟨(c :: q) :: ps, p, rfl, rfl⟩

/-- **Blanks around a text are trimmed off its pieces.** -/
theorem map_trim_cut_trim (hblank : ∀ c ∈ ds, isBlank c = false) (s : List Char) :
    (cut ds .zero (trim s)).map trim = (cut ds .zero s).map trim := by
  have hmem : ∀ {b : List Char}, IsBlanks b → ∀ c ∈ b, c ∉ ds := by
    intro b hb c hc hd
    have hnot := hblank c hd
    rw [hb c hc] at hnot
    cases hnot
  obtain ⟨b, e, hs, hb, he⟩ := exists_trim s
  obtain ⟨ps, p, htrim, hend⟩ := exists_cut_append hds (hmem he) .zero (trim s)
  obtain ⟨q, qs, hfirst⟩ := exists_cut ds .zero (trim s ++ e)
  have hdepth : Depth.zero.behind b = .zero :=
    Depth.behind_flat _ (fun c hc => isFlat_of_isBlank (hb c hc))
  have hstart : cut ds .zero (b ++ (trim s ++ e)) = (b ++ q) :: qs :=
    cut_append hds (.of_not_mem (hmem hb) .zero) (by rw [hdepth, hfirst])
  calc (cut ds .zero (trim s)).map trim
      = (cut ds .zero (trim s ++ e)).map trim := by
        rw [htrim, hend, List.map_append, List.map_append, List.map_singleton,
          List.map_singleton, trim_append_blanks p he]
    _ = (cut ds .zero (b ++ (trim s ++ e))).map trim := by
        rw [hfirst, hstart, List.map_cons, List.map_cons, trim_blanks_append hb]
    _ = (cut ds .zero s).map trim := by rw [← List.append_assoc, ← hs]

end SqlAtlas.Text
