/-
SqlAtlas.Proofs.Gate.Effectiveness — where an additional keyword takes effect.

An occurrence asks for a word to begin at the first character of the keyword. All
characters of keywords belong to words except the dot, so before a keyword that
begins with a dot the edge is the other way round: a word has to end there.
`extraRule_denies_iff` says what an additional keyword denies without speaking of
edges, and everything else follows from it. A keyword that begins otherwise is
refused wherever no word stands right before it. A keyword that begins with a dot
(`isDotted`) is refused right behind a word only, and changes nothing for the
texts in which no dot comes right behind a word.
-/
import SqlAtlas.Proofs.Gate.Embedding
import SqlAtlas.Proofs.Gate.Letters
import SqlAtlas.Proofs.Gate.Tightening

namespace SqlAtlas.Gate

open Text (isWordChar sameIgnoringCase trim)

/-! ## 1. The edges of keywords -/

/-- The keyword begins with a dot. -/
def isDotted (extra : String) : Bool := (trim extra.toList).head? = some '.'

section

variable {extra : String} (h : IsKeyword extra)

include h

/-- A word goes on at the beginning of a keyword unless that is a dot. -/
theorem isWordAt_head?_keyword : isWordAt (trim extra.toList).head? = !isDotted extra := by
  obtain ⟨c, r, hcr⟩ := List.exists_cons_of_ne_nil h.nonempty
  have hc : isKeywordChar c = true := h.plain c (by rw [hcr]; exact List.mem_cons_self)
  rw [isDotted, hcr, List.head?_cons, isWordAt, Bool.eq_iff_iff, isWordChar_of_isKeywordChar hc]
  simp

/-- A word goes on at the end of a keyword that is denied as a whole word. -/
theorem isWordAt_getLast?_keyword (hmark : marksPrefix (trim extra.toList) = false) :
    isWordAt (trim extra.toList).getLast? = true := by
  have hlast := List.getLast?_eq_some_getLast h.nonempty
  have hc : isKeywordChar ((trim extra.toList).getLast h.nonempty) = true :=
    h.plain _ (List.getLast_mem h.nonempty)
  rw [hlast, isWordAt, isWordChar_of_isKeywordChar hc]
  intro hdot
  rw [marksPrefix, hlast, hdot] at hmark
  simp at hmark

section

variable {k : List Char} (hk : SameLetters k (trim extra.toList))

include hk

theorem ne_nil_of_sameLetters_keyword : k ≠ [] := by
  rintro rfl
  exact h.nonempty (List.map_eq_nil_iff.mp hk.symm)

theorem wordEdge_before_iff {p s : List Char} : WordEdge p.getLast? (k ++ s).head?
    ↔ (isWordAt p.getLast? = true ↔ isDotted extra = true) := by
  have hhead : (k ++ s).head? = k.head? := by
    rw [List.head?_append, Option.or_of_isSome]
    simpa using ne_nil_of_sameLetters_keyword h hk
  rw [WordEdge, hhead, hk.isWordAt_head?, isWordAt_head?_keyword h]
  cases isWordAt p.getLast? <;> cases isDotted extra <;> simp [Xor]

theorem wordEdge_behind_iff (hmark : marksPrefix (trim extra.toList) = false) {p s : List Char} :
    WordEdge (p ++ k).getLast? s.head? ↔ isWordAt s.head? = false := by
  rw [WordEdge, List.getLast?_append_of_ne_nil p (ne_nil_of_sameLetters_keyword h hk),
      hk.isWordAt_getLast?, isWordAt_getLast?_keyword h hmark]
  cases isWordAt s.head? <;> simp [Xor]

end

/-- **What an additional keyword denies:** its letters, behind a word exactly if
they begin with a dot, and before no word unless they mark the beginning of one. -/
theorem extraRule_denies_iff {p k s : List Char} : (extraRule extra).Denies p k s ↔
    SameLetters k (trim extra.toList)
      ∧ (isWordAt p.getLast? = true ↔ isDotted extra = true)
      ∧ (marksPrefix (trim extra.toList) = true ∨ isWordAt s.head? = false) := by
  have hkey : (extraRule extra).keyword.toList = trim extra.toList := String.toList_ofList
  cases hmark : marksPrefix (trim extra.toList) with
  | true =>
      have hextent : (extraRule extra).extent = .wordStart := if_pos hmark
      constructor
      · rintro ⟨hk, hbegins, -⟩
        rw [hkey] at hk
        exact ⟨hk, (wordEdge_before_iff h hk).mp hbegins, .inl rfl⟩
      · rintro ⟨hk, hbegins, -⟩
        refine ⟨by rwa [hkey], (wordEdge_before_iff h hk).mpr hbegins, fun hword => ?_⟩
        rw [hextent] at hword
        cases hword
  | false =>
      have hextent : (extraRule extra).extent = .word := if_neg (by simp [hmark])
      constructor
      · rintro ⟨hk, hbegins, hends⟩
        rw [hkey] at hk
        exact ⟨hk, (wordEdge_before_iff h hk).mp hbegins,
          .inr ((wordEdge_behind_iff h hk hmark).mp (hends hextent))⟩
      · rintro ⟨hk, hbegins, hends⟩
        have hnone : isWordAt s.head? = false := hends.resolve_left Bool.false_ne_true
        exact ⟨by rwa [hkey], (wordEdge_before_iff h hk).mpr hbegins,
          fun _ => (wordEdge_behind_iff h hk hmark).mpr hnone⟩

end

/-! ## 2. Effect and lack of effect -/

section

variable {options : Options} {gate : Gate} (h : ofOptions options = .ok gate)

include h

theorem isKeyword_of_mem {extra : String} (he : extra ∈ options.extraKeywords) :
    IsKeyword extra :=
  (ofOptions_eq_ok_iff.mp h).2.1 extra he

/-- Where an additional keyword is denied, the text is refused. -/
theorem exists_error_of_denies {extra : String} (he : extra ∈ options.extraKeywords)
    {p k s : List Char} (hk : (extraRule extra).Denies p k s) (kind : Kind) :
    ∃ e, gate.check kind (p ++ k ++ s) = .error e := by
  rw [exists_error_iff, ne_eq, check_eq_ok_iff h]
  intro hall
  have hmem : extraRule extra ∈ options.rules kind :=
    List.mem_append_right _ (List.mem_map_of_mem he)
  exact hall .nothingDenied _ hmem ⟨p, k, s, rfl, hk⟩

end

/-- The options without the keywords that begin with a dot. -/
def Options.withoutDotted (options : Options) : Options :=
  { options with extraKeywords := options.extraKeywords.filter (fun extra => !isDotted extra) }

/-- A dotted keyword occurs right behind a word. -/
theorem exists_dot_of_occurs {extra : String} (h : IsKeyword extra)
    (hdotted : isDotted extra = true) {text : List Char} (hocc : (extraRule extra).Occurs text) :
    ∃ c, [c, '.'] <:+: text ∧ isWordChar c = true := by
  obtain ⟨p, k, s, rfl, hdenies⟩ := hocc
  obtain ⟨hk, hbegins, -⟩ := (extraRule_denies_iff h).mp hdenies
  have hdot : k.head? = some '.' := hk.head?_eq_dot_iff.mpr (by simpa [isDotted] using hdotted)
  obtain ⟨r, rfl⟩ := List.head?_eq_some_iff.mp hdot
  have hword := hbegins.mpr hdotted
  cases hlast : p.getLast? with
  | none => simp [hlast, isWordAt] at hword
  | some c =>
      obtain ⟨q, rfl⟩ := List.getLast?_eq_some_iff.mp hlast
      rw [hlast] at hword
      exact ⟨c, ⟨q, r ++ s, by simp⟩, hword⟩

/-- Where no dot comes right behind a word, dotted keywords change nothing. -/
theorem check_withoutDotted {options : Options} {gate plain : Gate}
    (h : ofOptions options = .ok gate) (hplain : ofOptions options.withoutDotted = .ok plain)
    {text : List Char} (htext : ∀ c, [c, '.'] <:+: text → isWordChar c = false)
    (kind : Kind) : gate.check kind text = .ok () ↔ plain.check kind text = .ok () := by
  constructor
  · refine check_ok_of_tighter hplain h le_rfl (fun extra he => ⟨extra, ?_, ?_⟩)
    · exact (List.mem_filter.mp he).1
    · simp [SameKeyword, sameIgnoringCase]
  · have hlength : options.withoutDotted.maxLength ≤ options.maxLength := le_rfl
    refine check_ok_of_rules hlength (fun rule hr hocc => ⟨rule, ?_, hocc⟩) h hplain
    rcases List.mem_append.mp hr with hbuiltIn | hextra
    · exact List.mem_append_left _ hbuiltIn
    · obtain ⟨extra, he, rfl⟩ := List.mem_map.mp hextra
      have hundotted : isDotted extra = false := by
        by_contra hdotted
        obtain ⟨c, hdot, hc⟩ :=
          exists_dot_of_occurs (isKeyword_of_mem h he) (by simpa using hdotted) hocc
        rw [htext c hdot] at hc
        cases hc
      have hkept : extra ∈ options.withoutDotted.extraKeywords :=
        List.mem_filter.mpr ⟨he, by rw [hundotted]; rfl⟩
      exact List.mem_append_right _ (List.mem_map_of_mem hkept)

theorem exists_ofOptions_withoutDotted {options : Options} {gate : Gate}
    (h : ofOptions options = .ok gate) : ∃ plain, ofOptions options.withoutDotted = .ok plain := by
  obtain ⟨hzero, hextras, -⟩ := ofOptions_eq_ok_iff.mp h
  exact ⟨_, ofOptions_eq_ok_iff.mpr
    ⟨hzero, fun extra he => hextras extra (List.mem_filter.mp he).1, rfl⟩⟩

/-! ## 3. The statement -/

/-- **Which additional keywords take effect, and where.** A keyword that does not
begin with a dot is refused in any letter case wherever no word stands right
before it and, unless it ends in an underscore or a dot, none right behind it. A
keyword that begins with a dot is refused right behind a word instead, and as long
as no dot comes there, the gate accepts the same texts without such keywords. -/
theorem keyword_takes_effect {options : Options} {gate : Gate} (h : ofOptions options = .ok gate) :
    (∀ extra ∈ options.extraKeywords, isDotted extra = false →
        ∀ k : List Char, sameIgnoringCase k (trim extra.toList) = true → ∀ p s : List Char,
        (∀ c ∈ p.getLast?, isWordChar c = false) →
        k.getLast? = some '_' ∨ k.getLast? = some '.' ∨ (∀ c ∈ s.head?, isWordChar c = false) →
        ∀ kind, ∃ e, gate.check kind (p ++ k ++ s) = .error e)
      ∧ (∀ extra ∈ options.extraKeywords, isDotted extra = true →
        ∀ k : List Char, sameIgnoringCase k (trim extra.toList) = true → ∀ p s : List Char,
        (∃ c ∈ p.getLast?, isWordChar c = true) →
        k.getLast? = some '_' ∨ k.getLast? = some '.' ∨ (∀ c ∈ s.head?, isWordChar c = false) →
        ∀ kind, ∃ e, gate.check kind (p ++ k ++ s) = .error e)
      ∧ ∃ plain, ofOptions options.withoutDotted = .ok plain
          ∧ ∀ kind text, (∀ c, [c, '.'] <:+: text → isWordChar c = false) →
            (gate.check kind text = .ok () ↔ plain.check kind text = .ok ()) := by
  have hdenies : ∀ extra ∈ options.extraKeywords, ∀ {k p s : List Char},
      sameIgnoringCase k (trim extra.toList) = true →
      (isWordAt p.getLast? = true ↔ isDotted extra = true) →
      k.getLast? = some '_' ∨ k.getLast? = some '.' ∨ (∀ c ∈ s.head?, isWordChar c = false) →
      (extraRule extra).Denies p k s := by
    intro extra he k p s hk hp hs
    refine (extraRule_denies_iff (isKeyword_of_mem h he)).mpr
      ⟨sameLetters_of_sameIgnoringCase hk, hp, ?_⟩
    rw [← marksPrefix_of_sameIgnoringCase hk, isWordAt_eq_false_iff, marksPrefix,
      Bool.or_eq_true, decide_eq_true_eq, decide_eq_true_eq, or_assoc]
    exact hs
  refine ⟨?_, ?_, ?_⟩
  · intro extra he hdotted k hk p s hp hs kind
    have hedge : isWordAt p.getLast? = true ↔ isDotted extra = true := by
      simp [isWordAt_eq_false_iff.mpr hp, hdotted]
    exact exists_error_of_denies h he (hdenies extra he hk hedge hs) kind
  · rintro extra he hdotted k hk p s ⟨c, hp, hc⟩ hs kind
    have hedge : isWordAt p.getLast? = true ↔ isDotted extra = true := by
      simp [Option.mem_def.mp hp, isWordAt, hc, hdotted]
    exact exists_error_of_denies h he (hdenies extra he hk hedge hs) kind
  · obtain ⟨plain, hplain⟩ := exists_ofOptions_withoutDotted h
    exact ⟨plain, hplain, fun kind text htext => check_withoutDotted h hplain htext kind⟩

/-- One keyword marks the beginning of a word, the other begins with a dot: it is
refused behind a name and changes nothing behind a blank. -/
theorem keyword_takes_effect_fileEnding :
    ∃ gate plain, ofOptions ⟨80, [" dbo_", ".Exe"]⟩ = .ok gate
      ∧ ofOptions ⟨80, [" dbo_"]⟩ = .ok plain
      ∧ (∃ e, gate.check .check ("x = ".toList ++ "DBO_".toList ++ "f(1)".toList) = .error e)
      ∧ (∃ e, gate.check .default ("'cmd".toList ++ ".EXE".toList ++ "'".toList) = .error e)
      ∧ (gate.check .check "'run .exe'".toList = .ok ()
          ↔ plain.check .check "'run .exe'".toList = .ok ()) := by
  have hgate : ofOptions ⟨80, [" dbo_", ".Exe"]⟩
      = .ok ⟨80, builtIn ++ [⟨"dbo_", .wordStart⟩, ⟨".Exe", .word⟩]⟩ := by rfl
  obtain ⟨heffect, hdotted, plain, hplain, hsame⟩ := keyword_takes_effect hgate
  refine ⟨_, plain, hgate, hplain, ?_, ?_, hsame .check _ (fun c hdot => ?_)⟩
  · refine heffect " dbo_" (by decide) (by decide +kernel) _ (by decide +kernel) _ _
      (fun c hc => ?_) (.inl (by decide)) .check
    cases hc
    decide
  · refine hdotted ".Exe" (by decide) (by decide +kernel) _ (by decide +kernel) _ _
      ⟨'d', by decide, by decide⟩ (.inr (.inr (fun c hc => ?_))) .default
    cases hc
    decide
  · have hall : "\x27run .exe\x27".toList.all (fun c =>
        !Text.contains [c, '.'] "\x27run .exe\x27".toList || !isWordChar c) = true := by
      decide +kernel
    have hc := List.all_eq_true.mp hall c (hdot.subset List.mem_cons_self)
    rw [Text.contains_iff.mpr hdot] at hc
    simpa using hc

/-- A keyword that begins with a dot and is accepted as a whole text. -/
theorem accepts_dottedKeyword :
    ofOptions ⟨2048, [".exe"]⟩ = .ok ⟨2048, builtIn ++ [⟨".exe", .word⟩]⟩
      ∧ Gate.check ⟨2048, builtIn ++ [⟨".exe", .word⟩]⟩ .check ([] ++ ".exe".toList ++ [])
        = .ok () :=
  ⟨by rfl, by rfl⟩

end SqlAtlas.Gate
