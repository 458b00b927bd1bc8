/-
SqlAtlas.Proofs.Text.LowerCase — when lower-casing is a map on characters.

Only a capital sigma looks at its neighbours. A text without one is lower-cased
character by character (`lowerFrom_eq_flatMap`), so its parts may be lower-cased
apart. A text with one still has a small sigma afterwards
(`small_sigma_mem_lowerFrom`), which tells the two kinds apart when only the
small letters are left. With or without one, the case of ASCII letters makes no
difference (`lowerCase_lowerAscii`).
-/
import SqlAtlas.Proofs.Text.Ascii
import SqlAtlas.Proofs.Text.Words
import SqlAtlas.Text.LowerCase

namespace SqlAtlas.Text

/-! ## 1. Sigma -/

/-- Without a sigma nothing depends on what stands around a character. -/
theorem lowerFrom_eq_flatMap {s : List Char} (h : 'Σ' ∉ s) (before : List Char) :
    lowerFrom before s = s.flatMap lowerChar := by
  induction s generalizing before with
  | nil => rfl
  | cons c s ih =>
      have hc : c ≠ 'Σ' := fun hc => h (by rw [hc]; exact List.mem_cons_self)
      have hs : 'Σ' ∉ s := fun hs => h (List.mem_cons_of_mem c hs)
      rw [lowerFrom, if_neg hc, ih hs, List.flatMap_cons]

/-- A capital sigma leaves a small one. -/
theorem small_sigma_mem_lowerFrom {s : List Char} (h : 'Σ' ∈ s) (before : List Char) :
    'σ' ∈ lowerFrom before s ∨ 'ς' ∈ lowerFrom before s := by
  induction s generalizing before with
  | nil => cases h
  | cons c s ih =>
      rw [lowerFrom]
      split
      · split
        · exact .inr List.mem_cons_self
        · exact .inl List.mem_cons_self
      · rename_i hc
        rcases List.mem_cons.mp h with rfl | h
        · exact absurd rfl hc
        · exact (ih h (c :: before)).imp (List.mem_append_right _) (List.mem_append_right _)

theorem lowerChar_ne_nil (c : Char) : lowerChar c ≠ [] := by
  rw [lowerChar]
  split
  · exact List.cons_ne_nil _ _
  · split <;> exact List.cons_ne_nil _ _

theorem lowerCase_ne_nil {s : List Char} (h : s ≠ []) : lowerCase s ≠ [] := by
  obtain ⟨c, r, rfl⟩ := List.exists_cons_of_ne_nil h
  rw [lowerCase, lowerFrom]
  split
  · exact List.cons_ne_nil _ _
  · exact fun hnil => lowerChar_ne_nil c (List.append_eq_nil_iff.mp hnil).1

/-- **The parts of a text without a sigma are lower-cased apart.** -/
theorem lowerCase_append {s t : List Char} (hs : 'Σ' ∉ s) (ht : 'Σ' ∉ t) :
    lowerCase (s ++ t) = lowerCase s ++ lowerCase t := by
  have hst : 'Σ' ∉ s ++ t := fun h => (List.mem_append.mp h).elim hs ht
  rw [lowerCase, lowerCase, lowerCase, lowerFrom_eq_flatMap hst, lowerFrom_eq_flatMap hs,
    lowerFrom_eq_flatMap ht, List.flatMap_append]

theorem sigma_not_mem_unwords : ∀ {ws : List (List Char)}, (∀ w ∈ ws, 'Σ' ∉ w) → 'Σ' ∉ unwords ws
  | [], _ => List.not_mem_nil
  | [w], h => h w (by simp)
  | w :: v :: ws, h => by
      obtain ⟨hw, hrest⟩ := List.forall_mem_cons.mp h
      have hmore := sigma_not_mem_unwords hrest
      rw [unwords_cons w (by simp)]
      simp [hw, hmore]

/-- Words without a sigma are lower-cased one by one. -/
theorem lowerCase_unwords : ∀ {ws : List (List Char)}, (∀ w ∈ ws, 'Σ' ∉ w) →
    lowerCase (unwords ws) = unwords (ws.map lowerCase)
  | [], _ => rfl
  | [w], _ => rfl
  | w :: v :: ws, h => by
      obtain ⟨hw, hrest⟩ := List.forall_mem_cons.mp h
      have hmore := sigma_not_mem_unwords hrest
      have hspace : 'Σ' ∉ ' ' :: unwords (v :: ws) := by simp [hmore]
      rw [unwords_cons w (by simp), lowerCase_append hw hspace, ← List.singleton_append,
        lowerCase_append (by decide) hmore, lowerCase_unwords hrest]
      rfl

/-- In ASCII the small letters are those of ASCII. -/
theorem lowerCase_of_ascii {s : List Char} (h : ∀ c ∈ s, isAscii c = true) :
    lowerCase s = lowerAscii s := by
  have hsigma : 'Σ' ∉ s := fun hmem => absurd (h _ hmem) (by decide)
  rw [lowerCase, lowerFrom_eq_flatMap hsigma]
  clear hsigma
  induction s with
  | nil => rfl
  | cons c s ih =>
      obtain ⟨hc, hs⟩ := List.forall_mem_cons.mp h
      rw [List.flatMap_cons, lowerChar, if_pos hc, ih hs]
      rfl

/-! ## 2. Behind an underscore -/

/-- Before an underscore no letter is sought: it is not passed over and has no
case. -/
theorem meetsCased_append_underscore (before : List Char) :
    meetsCased (before ++ ['_']) = meetsCased before := by
  have hstop : isCaseIgnorable '_' = false := by decide
  rw [meetsCased, meetsCased, List.dropWhile_append]
  cases before.dropWhile isCaseIgnorable with
  | nil =>
      rw [List.isEmpty_nil, if_pos rfl, List.dropWhile_cons_of_neg (by simp [hstop])]
      decide
  | cons c r => rfl

theorem lowerFrom_append_underscore (s before : List Char) :
    lowerFrom (before ++ ['_']) s = lowerFrom before s := by
  induction s generalizing before with
  | nil => rfl
  | cons c r ih =>
      have hrest : lowerFrom (c :: (before ++ ['_'])) r = lowerFrom (c :: before) r :=
        ih (c :: before)
      rw [lowerFrom, lowerFrom, endsWord, endsWord, meetsCased_append_underscore, hrest]

theorem lowerCase_underscore (s : List Char) : lowerCase ('_' :: s) = '_' :: lowerCase s := by
  have hrest : lowerFrom ['_'] s = lowerFrom [] s := lowerFrom_append_underscore s []
  rw [lowerCase, lowerFrom, if_neg (by decide), hrest]
  rfl

/-! ## 3. In small letters of ASCII -/

theorem toLower_eq_sigma_iff (c : Char) : c.toLower = 'Σ' ↔ c = 'Σ' := by
  have hsame := apply_toLower (f := fun d => decide (d = 'Σ')) (by decide +kernel) c
  simpa using hsame

theorem meetsCased_lowerAscii (s : List Char) : meetsCased (lowerAscii s) = meetsCased s := by
  have hignorable : isCaseIgnorable ∘ Char.toLower = isCaseIgnorable :=
    funext (apply_toLower (by decide +kernel))
  have hcased : ∀ c : Char, isCased c.toLower = isCased c := apply_toLower (by decide +kernel)
  rw [meetsCased, meetsCased, lowerAscii, List.dropWhile_map, hignorable]
  cases s.dropWhile isCaseIgnorable with
  | nil => rfl
  | cons c r => exact hcased c

theorem lowerFrom_lowerAscii (before s : List Char) :
    lowerFrom (lowerAscii before) (lowerAscii s) = lowerFrom before s := by
  have hchar : ∀ c : Char, lowerChar c.toLower = lowerChar c := apply_toLower (by decide +kernel)
  induction s generalizing before with
  | nil => rfl
  | cons c s ih =>
      have hrest : lowerFrom (c.toLower :: lowerAscii before) (lowerAscii s)
          = lowerFrom (c :: before) s := ih (c :: before)
      have hcons : lowerAscii (c :: s) = c.toLower :: lowerAscii s := rfl
      rw [hcons, lowerFrom, lowerFrom, hrest]
      by_cases hc : c = 'Σ'
      · rw [if_pos ((toLower_eq_sigma_iff c).mpr hc), if_pos hc, endsWord, endsWord,
          meetsCased_lowerAscii, meetsCased_lowerAscii]
      · rw [if_neg (fun h => hc ((toLower_eq_sigma_iff c).mp h)), if_neg hc, hchar]

/-- **The small letters of a text do not depend on the case of its letters of
ASCII**, a sigma next to them or not. -/
theorem lowerCase_lowerAscii (s : List Char) : lowerCase (lowerAscii s) = lowerCase s :=
  lowerFrom_lowerAscii [] s

/-- A small letter stands for each ASCII character of a text. -/
theorem toLower_mem_lowerFrom {c : Char} (hc : isAscii c = true) :
    ∀ {s : List Char} (before : List Char), c ∈ s → c.toLower ∈ lowerFrom before s
  | d :: s, before, h => by
      rw [lowerFrom]
      rcases List.mem_cons.mp h with rfl | h
      · have hsigma : c ≠ 'Σ' := by
          rintro rfl
          exact absurd hc (by decide)
        rw [if_neg hsigma, lowerChar, if_pos hc]
        exact List.mem_append_left _ (List.mem_singleton_self _)
      · have hrest := toLower_mem_lowerFrom hc (d :: before) h
        split
        · exact List.mem_cons_of_mem _ hrest
        · exact List.mem_append_right _ hrest

/-! ## 4. Spaces -/

/-- The small form of a code point is the code point itself, or one of those
listed. -/
theorem smallOf_cases (n : Nat) : ∀ runs : List CaseRun,
    smallOf runs n = n ∨ ∃ run ∈ runs, run.small ≤ smallOf runs n
  | [] => .inl rfl
  | run :: rest => by
      rw [smallOf]
      split
      · exact .inl rfl
      · split
        · split
          · exact .inr ⟨run, by simp, by omega⟩
          · exact .inl rfl
        · exact (smallOf_cases n rest).imp_right
            (fun ⟨r, hr, hle⟩ => ⟨r, List.mem_cons_of_mem _ hr, hle⟩)

theorem eq_of_ofNat_eq_space {n : Nat} (h : Char.ofNat n = ' ') : n = 0x20 := by
  by_cases hvalid : n.isValidChar
  · rw [Char.ofNat, dif_pos hvalid] at h
    exact congrArg Char.toNat h
  · rw [Char.ofNat, dif_neg hvalid] at h
    exact absurd h (by decide)

/-- Of no other character is the small form a space. -/
theorem eq_space_of_mem_lowerChar {c : Char} (h : ' ' ∈ lowerChar c) : c = ' ' := by
  rw [lowerChar] at h
  split at h
  · rename_i hascii
    have hall : ∀ n < 0x80, (Char.ofNat n).toLower = ' ' → Char.ofNat n = ' ' := by decide +kernel
    have hc := hall c.toNat (by simpa [isAscii] using hascii)
    rw [Char.ofNat_toNat] at hc
    exact hc (List.mem_singleton.mp h).symm
  · rename_i hascii
    split at h
    · exact absurd h (by decide)
    · -- neither a listed small form nor a character beyond ASCII is as small as a space
      have hspace := eq_of_ofNat_eq_space (List.mem_singleton.mp h).symm
      have hsmall : ∀ run ∈ caseRuns, 0x20 < run.small := by decide +kernel
      have hbeyond : 0x80 ≤ c.toNat := by simpa [isAscii] using hascii
      rcases smallOf_cases c.toNat caseRuns with heq | ⟨run, hrun, hle⟩
      · omega
      · have hlt := hsmall run hrun
        omega

/-- Small letters bring no space into a text without a sigma. -/
theorem space_not_mem_lowerCase {s : List Char} (hsigma : 'Σ' ∉ s) (h : ' ' ∉ s) :
    ' ' ∉ lowerCase s := by
  rw [lowerCase, lowerFrom_eq_flatMap hsigma, List.mem_flatMap]
  rintro ⟨c, hc, hspace⟩
  rw [eq_space_of_mem_lowerChar hspace] at hc
  exact h hc

end SqlAtlas.Text
