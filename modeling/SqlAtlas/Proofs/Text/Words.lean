/-
SqlAtlas.Proofs.Text.Words — the words of a text that is put together from
others.

The pieces of a text are those of `List.splitOnP` (`pieces_eq_splitOnP`), and
everything follows from its equations: a character that cuts ends one piece and
begins the next, whatever stands on its two sides. So blanks in front of a text
are in none of its words, and the first word of a text ends at the first blank
behind it (`words_append_of_blank_head`). A text is read word by word along
`exists_first_word`, and piece by piece along `pieces_induction`.

Two texts side by side have the words of both where a blank meets the other
text. Where none does, the last word of the first goes on with the first word of
the second (`unwords_words_append`).
-/
import Mathlib.Data.List.TakeWhile
import SqlAtlas.Text.Blank

namespace SqlAtlas.Text

/-! ## 1. Pieces -/

/-- The pieces are those of the library, whose equations are used from here on. -/
theorem pieces_eq_splitOnP (isCut : Char → Bool) (s : List Char) :
    pieces isCut s = s.splitOnP isCut := by
  induction s with
  | nil => rfl
  | cons c r ih =>
      rw [pieces, List.splitOnP_cons_eq_if_modifyHead, ih]
      split
      · rfl
      · obtain ⟨p, ps, hp⟩ := List.exists_cons_of_ne_nil (List.splitOnP_ne_nil isCut r)
        rw [hp]
        rfl

/-- A text is its first piece and what follows, which has the same pieces after
the cut. -/
theorem exists_first_piece (isCut : Char → Bool) (s : List Char) :
    (∀ c ∈ s, isCut c = false) ∧ pieces isCut s = [s] ∨
      ∃ q c r, s = q ++ c :: r ∧ (∀ d ∈ q, isCut d = false) ∧ isCut c = true
        ∧ pieces isCut s = q :: pieces isCut r := by
  cases hfind : s.find? isCut with
  | none =>
      have hs : ∀ c ∈ s, isCut c = false := by simpa using List.find?_eq_none.mp hfind
      refine .inl ⟨hs, ?_⟩
      rw [pieces_eq_splitOnP, List.splitOnP_eq_singleton hs]
  | some c =>
      obtain ⟨hc, q, r, rfl, hnot⟩ := List.find?_eq_some_iff_append.mp hfind
      have hq : ∀ d ∈ q, isCut d = false := by simpa using hnot
      refine .inr ⟨q, c, r, rfl, hq, hc, ?_⟩
      rw [pieces_eq_splitOnP, pieces_eq_splitOnP,
        List.splitOnP_append_cons_of_forall_mem hq c hc]

/-- **Induction along the pieces**: a text is its only piece, or a piece, a cut
and a text that has one piece less. -/
theorem pieces_induction (isCut : Char → Bool) {P : List Char → Prop}
    (last : ∀ s, (∀ c ∈ s, isCut c = false) → pieces isCut s = [s] → P s)
    (cut : ∀ q c r, (∀ d ∈ q, isCut d = false) → isCut c = true →
      pieces isCut (q ++ c :: r) = q :: pieces isCut r → P r → P (q ++ c :: r))
    (s : List Char) : P s := by
  rcases exists_first_piece isCut s with ⟨hs, hone⟩ | ⟨q, c, r, hs, hq, hc, hcut⟩
  · exact last s hs hone
  · rw [hs] at hcut ⊢
    exact cut q c r hq hc hcut (pieces_induction isCut last cut r)
termination_by s.length
decreasing_by
  rw [hs]
  simp only [List.length_append, List.length_cons]
  omega

/-! ## 2. Words -/

@[simp] theorem words_nil : words [] = [] := rfl

/-- A blank stands between words and in none of them. -/
theorem words_append_cons {c : Char} (hc : isBlank c = true) (s t : List Char) :
    words (s ++ c :: t) = words s ++ words t := by
  simp only [words, pieces_eq_splitOnP, List.splitOnP_append_cons s t hc, List.filter_append]

theorem words_cons_blank {c : Char} (hc : isBlank c = true) (s : List Char) :
    words (c :: s) = words s := by
  have h := words_append_cons hc [] s
  simpa using h

/-- Blanks in front of a text are in none of its words. -/
theorem words_blanks_append : ∀ {b : List Char}, (∀ c ∈ b, isBlank c = true) →
    ∀ s : List Char, words (b ++ s) = words s
  | [], _, s => rfl
  | c :: b, h, s => by
      rw [List.cons_append, words_cons_blank (h c (by simp)),
          words_blanks_append (fun d hd => h d (by simp [hd]))]

theorem words_eq_nil {b : List Char} (h : ∀ c ∈ b, isBlank c = true) : words b = [] := by
  have hb := words_blanks_append h []
  rwa [List.append_nil] at hb

/-- Blanks behind a text are in none of its words. -/
theorem words_append_blanks (s : List Char) {b : List Char} (h : ∀ c ∈ b, isBlank c = true) :
    words (s ++ b) = words s := by
  cases b with
  | nil => rw [List.append_nil]
  | cons c b =>
      obtain ⟨hc, hb⟩ := List.forall_mem_cons.mp h
      rw [words_append_cons hc, words_eq_nil hb, List.append_nil]

/-- A blank where two texts meet keeps their words apart. -/
theorem words_append_of_blank {s t : List Char}
    (h : (∃ c ∈ s.getLast?, isBlank c = true) ∨ ∃ c ∈ t.head?, isBlank c = true) :
    words (s ++ t) = words s ++ words t := by
  rcases h with ⟨c, hlast, hc⟩ | ⟨c, hhead, hc⟩
  · obtain ⟨r, rfl⟩ := List.getLast?_eq_some_iff.mp hlast
    have hr := words_append_cons hc r []
    rw [words_nil, List.append_nil] at hr
    rw [List.append_assoc, List.singleton_append, words_append_cons hc, hr]
  · obtain ⟨r, rfl⟩ := List.head?_eq_some_iff.mp hhead
    rw [words_append_cons hc, words_cons_blank hc]

theorem words_eq_singleton {w : List Char} (hne : w ≠ []) (h : ∀ c ∈ w, isBlank c = false) :
    words w = [w] := by
  rw [words, pieces_eq_splitOnP, List.splitOnP_eq_singleton h]
  simp [hne]

/-- The first word of a text ends where a blank follows it. -/
theorem words_append_of_blank_head {w : List Char} (hne : w ≠ [])
    (h : ∀ c ∈ w, isBlank c = false) {s : List Char} (hs : ∀ c ∈ s.head?, isBlank c = true) :
    words (w ++ s) = w :: words s := by
  cases s with
  | nil => rw [List.append_nil, words_eq_singleton hne h]; rfl
  | cons c s =>
      have hc : isBlank c = true := hs c (by simp)
      rw [words_append_cons hc, words_eq_singleton hne h, words_cons_blank hc,
          List.singleton_append]

/-- A text has no word, or it is its first word between blanks and what
follows. -/
theorem exists_first_word (s : List Char) :
    (∀ c ∈ s, isBlank c = true) ∧ words s = [] ∨
      ∃ b w r, s = b ++ (w ++ r) ∧ (∀ c ∈ b, isBlank c = true)
        ∧ w ≠ [] ∧ (∀ c ∈ w, isBlank c = false)
        ∧ (∀ c ∈ r.head?, isBlank c = true) ∧ words s = w :: words r := by
  have hs : s = s.takeWhile isBlank ++ s.dropWhile isBlank :=
    List.takeWhile_append_dropWhile.symm
  have hb : ∀ c ∈ s.takeWhile isBlank, isBlank c = true := fun _ => List.mem_takeWhile_imp
  cases hr : s.dropWhile isBlank with
  | nil =>
      rw [hr, List.append_nil] at hs
      rw [← hs] at hb
      refine .inl ⟨hb, ?_⟩
      have hwords := words_blanks_append hb []
      rwa [List.append_nil] at hwords
  | cons d r =>
      have hd : isBlank d = false := by
        have hnot := List.head?_dropWhile_not isBlank s
        simpa [hr] using hnot
      -- the word goes on to the next blank
      let w := (d :: r).takeWhile (fun c => !isBlank c)
      let t := (d :: r).dropWhile (fun c => !isBlank c)
      have hsplit : d :: r = w ++ t := List.takeWhile_append_dropWhile.symm
      have hne : w ≠ [] := by simp [w, hd]
      have hw : ∀ c ∈ w, isBlank c = false := fun c hc => by
        simpa using List.mem_takeWhile_imp hc
      have ht : ∀ c ∈ t.head?, isBlank c = true := by
        intro c hc
        have hnot := List.head?_dropWhile_not (fun c => !isBlank c) (d :: r)
        change c ∈ ((d :: r).dropWhile (fun c => !isBlank c)).head? at hc
        simpa [Option.mem_def.mp hc] using hnot
      rw [hr, hsplit] at hs
      refine .inr ⟨s.takeWhile isBlank, w, t, hs, hb, hne, hw, ht, ?_⟩
      rw [hs, words_blanks_append hb, words_append_of_blank_head hne hw ht]

/-! ## 3. Characters -/

/-- A character of a text cuts it or stands in one of the pieces. -/
theorem mem_pieces {isCut : Char → Bool} {s : List Char} {c : Char} (h : c ∈ s) :
    isCut c = true ∨ ∃ p ∈ pieces isCut s, c ∈ p := by
  induction s using pieces_induction isCut with
  | last s hs hone =>
      rw [hone]
      exact .inr ⟨s, List.mem_cons_self, h⟩
  | cut q d r hq hd hcut ih =>
      rw [hcut]
      rcases List.mem_append.mp h with h | h
      · exact .inr ⟨q, List.mem_cons_self, h⟩
      rcases List.mem_cons.mp h with rfl | h
      · exact .inl hd
      · exact (ih h).imp_right (fun ⟨p, hp, hcp⟩ => ⟨p, List.mem_cons_of_mem q hp, hcp⟩)

/-- A character of a text is a blank or stands in one of the words. -/
theorem mem_words {s : List Char} {c : Char} (h : c ∈ s) :
    isBlank c = true ∨ ∃ w ∈ words s, c ∈ w := by
  rcases mem_pieces (s := s) h with hb | ⟨p, hp, hc⟩
  · exact .inl hb
  · refine .inr ⟨p, List.mem_filter.mpr ⟨hp, ?_⟩, hc⟩
    cases p with
    | nil => cases hc
    | cons d p => rfl

/-- No piece holds a character that cuts. -/
theorem not_isCut_of_mem_pieces {isCut : Char → Bool} {s : List Char} :
    ∀ p ∈ pieces isCut s, ∀ c ∈ p, isCut c = false := by
  induction s using pieces_induction isCut with
  | last s hs hone =>
      rw [hone]
      exact List.forall_mem_singleton.mpr hs
  | cut q d r hq hd hcut ih =>
      rw [hcut]
      exact List.forall_mem_cons.mpr ⟨hq, ih⟩

theorem not_isBlank_of_mem_words {s w : List Char} (h : w ∈ words s) :
    ∀ c ∈ w, isBlank c = false :=
  not_isCut_of_mem_pieces w (List.mem_filter.mp h).1

theorem pieces_map (isCut : Char → Bool) (f : Char → Char) (s : List Char) :
    pieces isCut (s.map f) = (pieces (fun c => isCut (f c)) s).map (List.map f) := by
  induction s using pieces_induction (fun c => isCut (f c)) with
  | last s hs hone =>
      have hmap : ∀ c ∈ s.map f, isCut c = false := by simpa using hs
      rw [hone, pieces_eq_splitOnP, List.splitOnP_eq_singleton hmap]
      rfl
  | cut q c r hq hc hcut ih =>
      have hmap : ∀ d ∈ q.map f, isCut d = false := by simpa using hq
      rw [hcut, List.map_cons, ← ih, List.map_append, List.map_cons, pieces_eq_splitOnP,
        pieces_eq_splitOnP, List.splitOnP_append_cons_of_forall_mem hmap (f c) hc]

/-- A map that makes no blanks and unmakes none maps the words. -/
theorem words_map {f : Char → Char} (h : ∀ c, isBlank (f c) = isBlank c) (s : List Char) :
    words (s.map f) = (words s).map (List.map f) := by
  rw [words, words, pieces_map, List.filter_map]
  simp only [h, Function.comp_def, List.isEmpty_map]

/-- A piece holds nothing but characters of the text. -/
theorem mem_of_mem_pieces {isCut : Char → Bool} {s p : List Char} {c : Char} (hc : c ∈ p)
    (hp : p ∈ pieces isCut s) : c ∈ s := by
  induction s using pieces_induction isCut with
  | last s hs hone =>
      rw [hone] at hp
      rwa [← List.mem_singleton.mp hp]
  | cut q d r hq hd hcut ih =>
      rw [hcut] at hp
      rcases List.mem_cons.mp hp with rfl | hp
      · exact List.mem_append_left _ hc
      · exact List.mem_append_right _ (List.mem_cons_of_mem d (ih hp))

theorem words_ne_nil {s : List Char} {c : Char} (hc : c ∈ s) (hb : isBlank c = false) :
    words s ≠ [] := by
  intro hnil
  rcases mem_words hc with h | ⟨w, hw, -⟩
  · rw [hb] at h
    cases h
  · rw [hnil] at hw
    cases hw

theorem words_eq_nil_iff {s : List Char} : words s = [] ↔ ∀ c ∈ s, isBlank c = true := by
  refine ⟨fun h c hc => ?_, words_eq_nil⟩
  by_contra hb
  exact words_ne_nil hc (by simpa using hb) h

theorem mem_unwords {w : List Char} {c : Char} (hc : c ∈ w) : ∀ {ws : List (List Char)}, w ∈ ws →
    c ∈ unwords ws
  | [v], h => by
      rw [List.mem_singleton.mp h] at hc
      exact hc
  | v :: u :: ws, h => by
      rw [unwords.eq_def]
      rcases List.mem_cons.mp h with rfl | h
      · exact List.mem_append_left _ hc
      · exact List.mem_append_right _ (List.mem_cons_of_mem _ (mem_unwords hc h))

/-! ## 4. Words put together -/

/-- Putting words together is what the library does with a space. -/
theorem unwords_eq_intercalate (ws : List (List Char)) : unwords ws = [' '].intercalate ws := by
  induction ws with
  | nil => rfl
  | cons w ws ih =>
      cases ws with
      | nil => rw [unwords, List.intercalate_singleton]
      | cons v vs =>
          change w ++ ' ' :: unwords (v :: vs) = _
          rw [ih, List.intercalate_cons_cons, List.append_assoc, List.singleton_append]

theorem unwords_cons (w : List Char) {ws : List (List Char)} (h : ws ≠ []) :
    unwords (w :: ws) = w ++ ' ' :: unwords ws := by
  rw [unwords_eq_intercalate, unwords_eq_intercalate, List.intercalate_cons_of_ne_nil h,
    List.append_assoc, List.singleton_append]

theorem unwords_append {ws vs : List (List Char)} (hw : ws ≠ []) (hv : vs ≠ []) :
    unwords (ws ++ vs) = unwords ws ++ ' ' :: unwords vs := by
  induction ws with
  | nil => exact absurd rfl hw
  | cons w ws ih =>
      cases ws with
      | nil => exact unwords_cons w hv
      | cons u us =>
          rw [List.cons_append, unwords_cons w (by simp), ih (by simp), unwords_cons w (by simp),
            List.append_assoc, List.cons_append]

/-- A character in front of a text that does not begin with a blank goes on with
its first word. -/
theorem unwords_words_cons {c : Char} (hc : isBlank c = false) : ∀ {s : List Char},
    (∀ d ∈ s.head?, isBlank d = false) → unwords (words (c :: s)) = c :: unwords (words s)
  | [], _ => by simp [words, pieces, hc, addToFirst, unwords]
  | d :: r, h => by
      have hd : isBlank d = false := h d rfl
      rw [words, words, pieces, pieces, hc, hd]
      cases pieces isBlank r with
      | nil => rfl
      | cons p ps => cases hps : ps.filter (fun q => !q.isEmpty) <;> simp [addToFirst, unwords, hps]

section

variable {t : List Char} (ht : ∀ c ∈ t.head?, isBlank c = false)

include ht

theorem unwords_words_solid_append {w : List Char} (hw : ∀ c ∈ w, isBlank c = false) :
    unwords (words (w ++ t)) = w ++ unwords (words t) := by
  induction w with
  | nil => rfl
  | cons c w ih =>
      obtain ⟨hc, hrest⟩ := List.forall_mem_cons.mp hw
      have hhead : ∀ d ∈ (w ++ t).head?, isBlank d = false := by
        intro d hd
        cases w with
        | nil => exact ht d hd
        | cons e w =>
            cases hd
            exact hrest _ List.mem_cons_self
      rw [List.cons_append, unwords_words_cons hc hhead, ih hrest, List.cons_append]

/-- **Where no blank stands between two texts, the last word of the one goes on
with the first word of the other.** -/
theorem unwords_words_append {s : List Char} {c : Char} (hlast : s.getLast? = some c)
    (hc : isBlank c = false) :
    unwords (words (s ++ t)) = unwords (words s) ++ unwords (words t) := by
  have hmem := List.mem_of_getLast? hlast
  rcases exists_first_word s with ⟨hb, -⟩ | ⟨b, w, r, hs, hb, hne, hw, hr, hwords⟩
  · rw [hb c hmem] at hc
    cases hc
  · cases r with
    | nil =>
        -- the word is the last one, and `t` goes on with it
        rw [hwords, hs, List.append_nil, List.append_assoc, words_blanks_append hb,
          unwords_words_solid_append ht hw, words_nil]
        rfl
    | cons d r =>
        have hrlast : (d :: r).getLast? = some c := by
          rw [hs, ← List.append_assoc, List.getLast?_append] at hlast
          simpa using hlast
        have hrmem := List.mem_of_getLast? hrlast
        have hcons : words (s ++ t) = w :: words (d :: r ++ t) := by
          rw [hs, List.append_assoc, List.append_assoc, words_blanks_append hb,
            words_append_of_blank_head hne hw (by simpa using hr)]
        rw [hcons, hwords, unwords_cons w (words_ne_nil (List.mem_append_left t hrmem) hc),
          unwords_cons w (words_ne_nil hrmem hc), unwords_words_append hrlast hc,
          List.append_assoc, List.cons_append]
termination_by s.length
decreasing_by
  have := List.length_pos_iff.mpr hne
  rw [hs]
  simp only [List.length_append, List.length_cons]
  omega

end

/-- Words that are put together come apart again. -/
theorem words_unwords {ws : List (List Char)}
    (h : ∀ w ∈ ws, w ≠ [] ∧ ∀ c ∈ w, isBlank c = false) : words (unwords ws) = ws := by
  induction ws with
  | nil => rfl
  | cons w ws ih =>
      obtain ⟨⟨hne, hsolid⟩, hws⟩ := List.forall_mem_cons.mp h
      cases ws with
      | nil => exact words_eq_singleton hne hsolid
      | cons v vs =>
          rw [unwords_cons w (by simp), words_append_cons (by decide), ih hws,
            words_eq_singleton hne hsolid]
          rfl

end SqlAtlas.Text
