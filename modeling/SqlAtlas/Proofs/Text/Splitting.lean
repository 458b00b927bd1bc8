/-
SqlAtlas.Proofs.Text.Splitting — splitting outside all nesting loses nothing,
and splitting again changes nothing.

`Segments` is a text written down as segments with one delimiter between
neighbours. They are `Valid` if every delimiter between them is a cut (`IsCut`)
and no character of a segment is one. Whether a character is a cut depends on
all that stands before it, through two levels that are counted apart: how many
parentheses are open, and how many brackets.

`splitOutside_segments` says that every text is written like this in one way,
and that its pieces are the segments. What makes splitting stable is that both
levels are zero behind a cut. A segment is read there as it is read alone, so it
holds no cut for a second splitting to find (`Segments.Valid.unbroken_of_mem`).
For tokens that are joined again the delimiters have to be flat: then what
stands before a cut leaves nothing open (`Segments.Valid.pairwise_closed`), and
every delimiter that joins is a cut again.
-/
import SqlAtlas.Proofs.Text.Nesting

namespace SqlAtlas.Text

/-! ## 1. Levels -/

/-- The number of open `o` after one more character. An `e` closes one of them,
if there is one. -/
def counted (o e : Char) (n : Nat) (c : Char) : Nat :=
  if c = o then n + 1 else if c = e then n - 1 else n

/-- The number of `o` that are open at the end of a text. -/
def level (o e : Char) (s : List Char) : Nat := s.foldl (counted o e) 0

theorem Depth.after_eq (d : Depth) (c : Char) :
    d.after c = ⟨counted '(' ')' d.parens c, counted '[' ']' d.brackets c⟩ := by
  by_cases h1 : c = '('
  · simp [Depth.after, counted, h1]
  by_cases h2 : c = ')'
  · simp [Depth.after, counted, h2]
  by_cases h3 : c = '['
  · simp [Depth.after, counted, h3]
  by_cases h4 : c = ']'
  · simp [Depth.after, counted, h4]
  simp [Depth.after, counted, h1, h2, h3, h4]

theorem Depth.behind_eq (d : Depth) (s : List Char) :
    d.behind s = ⟨s.foldl (counted '(' ')') d.parens, s.foldl (counted '[' ']') d.brackets⟩ := by
  induction s generalizing d with
  | nil => rfl
  | cons c s ih =>
      rw [Depth.behind_cons, ih, Depth.after_eq]
      rfl

/-- The depth behind a text consists of its levels. -/
theorem behind_zero (s : List Char) :
    Depth.zero.behind s = ⟨level '(' ')' s, level '[' ']' s⟩ := Depth.behind_eq .zero s

/-! ## 2. Cuts -/

/-- A delimiter that cuts the text: with it, nothing is open. `front` is all
that stands before it. -/
structure IsCut (ds front : List Char) (c : Char) : Prop where
  delimiter : c ∈ ds
  parens : level '(' ')' (front ++ [c]) = 0
  brackets : level '[' ']' (front ++ [c]) = 0

theorem isCut_iff {ds front : List Char} {c : Char} :
    IsCut ds front c ↔ Depth.zero.behind (front ++ [c]) = .zero ∧ c ∈ ds := by
  rw [behind_zero, Depth.zero, Depth.mk.injEq]
  constructor
  · intro h
    exact ⟨⟨h.parens, h.brackets⟩, h.delimiter⟩
  · rintro ⟨⟨hp, hb⟩, hc⟩
    exact ⟨hc, hp, hb⟩

/-- No character of a segment is a cut. `front` is all that stands before the
segment. -/
def Unbroken (ds front segment : List Char) : Prop :=
  ∀ x c y, segment = x ++ c :: y → ¬ IsCut ds (front ++ x) c

theorem unbroken_nil (ds front : List Char) : Unbroken ds front [] := by
  intro x c y h
  simp at h

theorem unbroken_cons {ds front : List Char} {c : Char} (hc : ¬ IsCut ds front c)
    {segment : List Char} (h : Unbroken ds (front ++ [c]) segment) :
    Unbroken ds front (c :: segment) := by
  intro x e y hx
  cases x with
  | nil =>
      cases hx
      rwa [List.append_nil]
  | cons d x =>
      cases hx
      have hnext := h x e y rfl
      rwa [List.append_assoc, List.singleton_append] at hnext

/-- What stands before a segment takes part by its levels only. -/
theorem Unbroken.of_behind_eq {ds front front' segment : List Char} (h : Unbroken ds front segment)
    (hfront : Depth.zero.behind front = Depth.zero.behind front') :
    Unbroken ds front' segment := by
  intro x c y hx hcut
  refine h x c y hx ?_
  rw [isCut_iff] at hcut ⊢
  rw [List.append_assoc, Depth.behind_append] at hcut ⊢
  rwa [hfront]

/-- **Two ways to the first cut are one.** -/
theorem Unbroken.first_cut {ds front s s' r r' : List Char} {c c' : Char}
    (hs : Unbroken ds front s) (hs' : Unbroken ds front s') (hc : IsCut ds (front ++ s) c)
    (hc' : IsCut ds (front ++ s') c') (h : s ++ c :: r = s' ++ c' :: r') :
    s = s' ∧ c = c' ∧ r = r' := by
  rcases List.append_eq_append_iff.mp h with ⟨t, ht, hrest⟩ | ⟨t, ht, hrest⟩
  · cases t with
    | nil =>
        rw [List.append_nil] at ht
        cases hrest
        exact ⟨ht.symm, rfl, rfl⟩
    | cons d t =>
        cases hrest
        exact absurd hc (hs' s c t ht)
  · cases t with
    | nil =>
        rw [List.append_nil] at ht
        cases hrest
        exact ⟨ht, rfl, rfl⟩
    | cons d t =>
        cases hrest
        exact absurd hc' (hs s' c' t ht)

/-! ## 3. Segments -/

/-- A text in segments: the last one, or one with a delimiter behind it and
more segments. -/
inductive Segments where
  | last (segment : List Char)
  | cut (segment : List Char) (delimiter : Char) (more : Segments)

namespace Segments

def text : Segments → List Char
  | last s => s
  | cut s c x => s ++ c :: x.text

def toList : Segments → List (List Char)
  | last s => [s]
  | cut s _ x => s :: x.toList

/-- The delimiters between the segments are the cuts of the text. `front` is
what stands before it. -/
def Valid (ds : List Char) : List Char → Segments → Prop
  | front, last s => Unbroken ds front s
  | front, cut s c x => Unbroken ds front s ∧ IsCut ds (front ++ s) c ∧ x.Valid ds (front ++ s ++ [c])

/-- Puts a character in front of the first segment. -/
def push (c : Char) : Segments → Segments
  | last s => last (c :: s)
  | cut s e x => cut (c :: s) e x

theorem text_push (c : Char) (x : Segments) : (x.push c).text = c :: x.text := by
  cases x <;> rfl

theorem toList_push (c : Char) (x : Segments) : (x.push c).toList = addToFirst c x.toList := by
  cases x <;> rfl

variable {ds front : List Char}

theorem Valid.push {c : Char} (hc : ¬ IsCut ds front c) {x : Segments}
    (h : x.Valid ds (front ++ [c])) : (x.push c).Valid ds front := by
  cases x with
  | last s => exact unbroken_cons hc h
  | cut s e x =>
      obtain ⟨hs, he, hx⟩ := h
      have hshift : front ++ [c] ++ s = front ++ c :: s := by simp
      rw [hshift] at he hx
      exact ⟨unbroken_cons hc hs, he, hx⟩

/-- **Every text has segments**, and they are the pieces that it is cut into. -/
theorem exists_valid (ds front s : List Char) : ∃ x : Segments,
    x.Valid ds front ∧ x.text = s ∧ x.toList = Text.cut ds (Depth.zero.behind front) s := by
  induction s generalizing front with
  | nil => exact ⟨last [], unbroken_nil ds front, rfl, rfl⟩
  | cons c s ih =>
      obtain ⟨x, hx, htext, hlist⟩ := ih (front ++ [c])
      have hafter : Depth.zero.behind (front ++ [c]) = (Depth.zero.behind front).after c :=
        Depth.behind_append _ _ _
      rw [Text.cut, ← hafter]
      by_cases hc : IsCut ds front c
      · refine ⟨cut [] c x, ⟨unbroken_nil ds front, ?_, ?_⟩, ?_, ?_⟩
        · rwa [List.append_nil]
        · rwa [List.append_nil]
        · rw [text, htext, List.nil_append]
        · rw [if_pos (Depth.cuts_iff.mpr (isCut_iff.mp hc)), toList, hlist]
      · refine ⟨x.push c, hx.push hc, by rw [text_push, htext], ?_⟩
        rw [if_neg (fun h => hc (isCut_iff.mpr (Depth.cuts_iff.mp h))), toList_push, hlist]

/-- **No text has two.** -/
theorem Valid.unique {x y : Segments} (hx : x.Valid ds front) (hy : y.Valid ds front)
    (h : x.text = y.text) : x = y := by
  induction x generalizing front y with
  | last s =>
      cases y with
      | last s' => exact congrArg last h
      | cut s' c y => exact absurd hy.2.1 (hx s' c y.text h)
  | cut s c x ih =>
      cases y with
      | last s' => exact absurd hx.2.1 (hy s c x.text h.symm)
      | cut s' c' y =>
          obtain ⟨hs, hc, hmore⟩ := hx
          obtain ⟨hs', hc', hmore'⟩ := hy
          obtain ⟨rfl, rfl, htext⟩ := hs.first_cut hs' hc hc' h
          rw [ih hmore hmore' htext]

theorem Valid.cut_eq {x : Segments} (h : x.Valid ds []) :
    Text.cut ds .zero x.text = x.toList := by
  obtain ⟨y, hy, htext, hlist⟩ := exists_valid ds [] x.text
  rw [hy.unique h htext] at hlist
  exact hlist.symm

/-! ## 4. Segments by themselves -/

/-- A segment holds no cut when it is read alone. -/
theorem Valid.unbroken_of_mem {x : Segments} (h : x.Valid ds front)
    (hfront : Depth.zero.behind front = .zero) : ∀ s ∈ x.toList, Unbroken ds [] s := by
  induction x generalizing front with
  | last s =>
      intro t ht
      rw [List.mem_singleton.mp ht]
      exact Unbroken.of_behind_eq h hfront
  | cut s c x ih =>
      obtain ⟨hs, hc, hx⟩ := h
      intro t ht
      rcases List.mem_cons.mp ht with rfl | ht
      · exact hs.of_behind_eq hfront
      · exact ih hx (isCut_iff.mp hc).1 t ht

/-- Where the delimiters are flat, a segment with another one behind it leaves
nothing open. -/
theorem Valid.pairwise_closed (hds : ∀ c ∈ ds, isFlat c = true) {x : Segments}
    (h : x.Valid ds front) (hfront : Depth.zero.behind front = .zero) :
    x.toList.Pairwise (fun s _ => Depth.zero.behind s = .zero) := by
  induction x generalizing front with
  | last s => exact List.pairwise_singleton _ s
  | cut s c x ih =>
      obtain ⟨-, hc, hx⟩ := h
      obtain ⟨hzero, hmem⟩ := isCut_iff.mp hc
      refine List.pairwise_cons.mpr ⟨fun _ _ => ?_, ih hx hzero⟩
      rwa [Depth.behind_append, Depth.behind_append, hfront, Depth.behind_cons,
        Depth.after_flat _ (hds c hmem), Depth.behind_nil] at hzero

/-- The segments that one delimiter joins. -/
def joined (c : Char) (s : List Char) : List (List Char) → Segments
  | [] => last s
  | t :: ts => cut s c (joined c t ts)

theorem toList_joined (c : Char) (s : List Char) (ts : List (List Char)) :
    (joined c s ts).toList = s :: ts := by
  induction ts generalizing s with
  | nil => rfl
  | cons t ts ih => rw [joined, toList, ih]

theorem text_joined (c : Char) (s : List Char) (ts : List (List Char)) :
    (joined c s ts).text = List.intercalate [c] (s :: ts) := by
  induction ts generalizing s with
  | nil => simp [joined, text]
  | cons t ts ih => simp [joined, text, ih, List.intercalate_cons_cons]

theorem valid_joined {c : Char} (hc : c ∈ ds) (hflat : isFlat c = true)
    (hfront : Depth.zero.behind front = .zero) {s : List Char} {ts : List (List Char)}
    (hunbroken : ∀ t ∈ s :: ts, Unbroken ds [] t)
    (hclosed : (s :: ts).Pairwise (fun t _ => Depth.zero.behind t = .zero)) :
    (joined c s ts).Valid ds front := by
  induction ts generalizing front s with
  | nil => exact (hunbroken s List.mem_cons_self).of_behind_eq hfront.symm
  | cons t ts ih =>
      obtain ⟨hs, hts⟩ := List.forall_mem_cons.mp hunbroken
      obtain ⟨hsclosed, htsclosed⟩ := List.pairwise_cons.mp hclosed
      have hbehind : Depth.zero.behind (front ++ s ++ [c]) = .zero := by
        rw [Depth.behind_append, Depth.behind_append, hfront, hsclosed t List.mem_cons_self,
          Depth.behind_cons, Depth.after_flat _ hflat, Depth.behind_nil]
      exact ⟨hs.of_behind_eq hfront.symm, isCut_iff.mpr ⟨hbehind, hc⟩, ih hbehind hts htsclosed⟩

end Segments

/-! ## 5. Tokens -/

/-- Trimming takes no cut away and brings none up: blanks are flat. -/
theorem Unbroken.trim {ds s : List Char} (h : Unbroken ds [] s) : Unbroken ds [] (trim s) := by
  obtain ⟨b, e, hs, hb, -⟩ := exists_trim s
  have hdepth : Depth.zero.behind b = .zero :=
    Depth.behind_flat _ (fun c hc => isFlat_of_isBlank (hb c hc))
  have hshift : Unbroken ds b (Text.trim s) := by
    intro x c y hx
    refine h (b ++ x) c (y ++ e) ?_
    rw [hs, hx]
    simp
  exact hshift.of_behind_eq hdepth

theorem behind_trim (d : Depth) (s : List Char) : d.behind (trim s) = d.behind s := by
  obtain ⟨b, e, hs, hb, he⟩ := exists_trim s
  have hflat : ∀ {t : List Char}, IsBlanks t → ∀ d : Depth, d.behind t = d :=
    fun ht d => Depth.behind_flat d (fun c hc => isFlat_of_isBlank (ht c hc))
  conv => rhs; rw [hs]
  rw [Depth.behind_append, Depth.behind_append, hflat hb, hflat he]

/-- A text that is trimmed, not blank, and without a cut is one token. -/
structure IsToken (ds t : List Char) : Prop where
  trimmed : trim t = t
  nonempty : t ≠ []
  unbroken : Unbroken ds [] t

theorem isToken_of_mem {ds s t : List Char} (h : t ∈ splitOutside ds s) : IsToken ds t := by
  obtain ⟨x, hx, rfl, -⟩ := Segments.exists_valid ds [] s
  rw [splitOutside_eq, hx.cut_eq] at h
  obtain ⟨p, hp, rfl⟩ := List.mem_map.mp h
  obtain ⟨hmem, hblank⟩ := List.mem_filter.mp hp
  refine ⟨trim_trim p, fun hnil => ?_, (hx.unbroken_of_mem rfl p hmem).trim⟩
  rw [trim_eq_nil_iff] at hnil
  simp [hnil] at hblank

/-- Where the pieces of a text are tokens, splitting returns them. -/
theorem splitOutside_of_cut {ds s : List Char} {ts : List (List Char)} (hcut : cut ds .zero s = ts)
    (hts : ∀ t ∈ ts, IsToken ds t) : splitOutside ds s = ts := by
  have htrim : ts.map trim = ts := by
    conv => rhs; rw [← List.map_id ts]
    exact List.map_congr_left (fun t ht => (hts t ht).trimmed)
  rw [splitOutside, hcut, htrim, List.filter_eq_self]
  intro t ht
  simpa using (hts t ht).nonempty

/-- **Splitting a token returns it.** -/
theorem splitOutside_token {ds t : List Char} (h : IsToken ds t) : splitOutside ds t = [t] := by
  have hvalid : (Segments.last t).Valid ds [] := h.unbroken
  refine splitOutside_of_cut hvalid.cut_eq ?_
  intro u hu
  rwa [List.mem_singleton.mp hu]

/-- A token with another one behind it leaves nothing open. -/
theorem pairwise_closed_splitOutside {ds : List Char} (hds : ∀ c ∈ ds, isFlat c = true)
    (s : List Char) :
    (splitOutside ds s).Pairwise (fun t _ => Depth.zero.behind t = .zero) := by
  obtain ⟨x, hx, rfl, -⟩ := Segments.exists_valid ds [] s
  rw [splitOutside_eq, hx.cut_eq, List.pairwise_map]
  refine ((hx.pairwise_closed hds rfl).filter _).imp ?_
  intro p _ hp
  rwa [behind_trim]

/-- **Tokens that are joined split again**, whichever delimiter joins them. -/
theorem splitOutside_intercalate {ds : List Char} (hds : ∀ c ∈ ds, isFlat c = true) {c : Char}
    (hc : c ∈ ds) (s : List Char) :
    splitOutside ds (List.intercalate [c] (splitOutside ds s)) = splitOutside ds s := by
  have htoken : ∀ t ∈ splitOutside ds s, IsToken ds t := fun t ht => isToken_of_mem ht
  have hclosed := pairwise_closed_splitOutside hds s
  generalize splitOutside ds s = tokens at htoken hclosed
  cases tokens with
  | nil => rfl
  | cons t ts =>
      have hvalid : (Segments.joined c t ts).Valid ds [] :=
        Segments.valid_joined hc (hds c hc) rfl (fun u hu => (htoken u hu).unbroken) hclosed
      refine splitOutside_of_cut ?_ htoken
      rw [← Segments.text_joined, hvalid.cut_eq, Segments.toList_joined]

/-- **Splitting outside all nesting.** A text has segments between its cuts in
exactly one way, and its tokens are those of them that are not blank, trimmed and
in order. Splitting a token returns the token, and splitting the tokens joined by
a delimiter returns the tokens, unless an opener or a closer is a delimiter. -/
theorem splitOutside_segments (ds s : List Char) :
    (∃! x : Segments, x.Valid ds [] ∧ x.text = s)
      ∧ (∀ x : Segments, x.Valid ds [] → x.text = s →
        splitOutside ds s = (x.toList.filter (fun p => ¬ IsBlanks p)).map trim)
      ∧ (∀ t ∈ splitOutside ds s, splitOutside ds t = [t])
      ∧ ((∀ c ∈ ds, isFlat c = true) → ∀ c ∈ ds,
        splitOutside ds (List.intercalate [c] (splitOutside ds s)) = splitOutside ds s) := by
  refine ⟨?_, ?_, fun t ht => splitOutside_token (isToken_of_mem ht),
    fun hds c hc => splitOutside_intercalate hds hc s⟩
  · obtain ⟨x, hx, htext, -⟩ := Segments.exists_valid ds [] s
    refine ⟨x, ⟨hx, htext⟩, ?_⟩
    rintro y ⟨hy, hytext⟩
    exact hy.unique hx (hytext.trans htext.symm)
  · rintro x hx rfl
    rw [splitOutside_eq, hx.cut_eq]

/-- An opener that is never closed keeps what follows in one token, and a closer
without an opener does nothing. -/
theorem splitOutside_segments_unbalanced :
    splitOutside [',', ';'] " a) ,; f(x;y] ,[b ".toList = ["a)".toList, "f(x;y] ,[b".toList]
      ∧ splitOutside [',', ';'] "f(x;y] ,[b".toList = ["f(x;y] ,[b".toList]
      ∧ splitOutside [',', ';'] "a);f(x;y] ,[b".toList = ["a)".toList, "f(x;y] ,[b".toList] := by
  have hsplit : splitOutside [',', ';'] " a) ,; f(x;y] ,[b ".toList
      = ["a)".toList, "f(x;y] ,[b".toList] := by decide
  obtain ⟨-, -, htoken, hjoin⟩ := splitOutside_segments [',', ';'] " a) ,; f(x;y] ,[b ".toList
  rw [hsplit] at htoken hjoin
  exact ⟨hsplit, htoken _ (by simp), hjoin (by decide) ';' (by decide)⟩

end SqlAtlas.Text
