import DocSections.Naming

/-! The characters of data keys. Besides letters and digits, a data key has only what changing their
case gives, and it is empty exactly if the name has no letter or digit. -/

namespace DocSections

namespace Text

/-- A character that no other one becomes when its case is changed. -/
structure Unmapped (d : Char) : Prop where
  outsideRuns : ∀ r ∈ lowerRuns ++ upperRuns,
    ¬ (r.first + r.offset ≤ d.toNat ∧ (d.toNat : Int) ≤ r.last + r.offset)
  notExpanded : ∀ e ∈ upperExpansions, d.toNat ∉ e.2
  notSpecial : d ∉ [Char.ofNat 0, 'i', Char.ofNat 0x307, 'σ', 'ς']

instance (d : Char) : Decidable (Unmapped d) :=
  decidable_of_iff ((∀ r ∈ lowerRuns ++ upperRuns,
      ¬ (r.first + r.offset ≤ d.toNat ∧ (d.toNat : Int) ≤ r.last + r.offset)) ∧
    (∀ e ∈ upperExpansions, d.toNat ∉ e.2) ∧
      d ∉ [Char.ofNat 0, 'i', Char.ofNat 0x307, 'σ', 'ς'])
    ⟨fun h => ⟨h.1, h.2.1, h.2.2⟩, fun h => ⟨h.1, h.2, h.3⟩⟩

theorem mapNat_cases (n : Nat) (runs : List CaseRun) : mapNat n runs = n ∨
    ∃ r ∈ runs, r.first ≤ n ∧ n ≤ r.last ∧ mapNat n runs = (n + r.offset).toNat := by
  induction runs with
  | nil => exact .inl rfl
  | cons r rest ih =>
    rw [mapNat]
    split
    · exact .inl rfl
    · split
      · rcases ih with hsame | ⟨s, hs, hmapped⟩
        · exact .inl hsame
        · exact .inr ⟨s, List.mem_cons_of_mem _ hs, hmapped⟩
      · split
        · exact .inr ⟨r, List.mem_cons_self, by omega, by omega, rfl⟩
        · exact .inl rfl

/-- A number that is no code point stands for the null character. -/
theorem toNat_ofNat_or (n : Nat) : (Char.ofNat n).toNat = n ∨ Char.ofNat n = Char.ofNat 0 := by
  by_cases hn : n.isValidChar
  · left
    rw [Char.ofNat, dif_pos hn]
    rfl
  · right
    rw [Char.ofNat, dif_neg hn]
    rfl

section

variable {c d : Char} (h : Unmapped d)

include h

theorem Unmapped.ne_special {e : Char} (he : e ∈ [Char.ofNat 0, 'i', Char.ofNat 0x307, 'σ', 'ς']) :
    d ≠ e := by
  intro hd
  exact h.notSpecial (hd ▸ he)

theorem toNat_eq_of_ofNat_eq {n : Nat} (hn : Char.ofNat n = d) : n = d.toNat := by
  rcases toNat_ofNat_or n with hvalid | hnull
  · rw [← hvalid, hn]
  · exact absurd (hn.symm.trans hnull) (h.ne_special (by simp))

theorem eq_of_mapChar_eq {runs : List CaseRun} (hruns : ∀ r ∈ runs, r ∈ lowerRuns ++ upperRuns)
    (hc : mapChar runs c = d) : c = d := by
  have hmapped := toNat_eq_of_ofNat_eq h hc
  rcases mapNat_cases c.toNat runs with hsame | ⟨r, hr, hfirst, hlast, hoffset⟩
  · rw [hsame] at hmapped
    exact Char.toNat_inj.mp hmapped
  · exfalso
    have hout := h.outsideRuns r (hruns r hr)
    -- below zero the run would give the null character
    have hnull : d.toNat ≠ 0 := fun hzero =>
      h.ne_special List.mem_cons_self (Char.toNat_inj.mp hzero)
    rw [hoffset] at hmapped
    omega

theorem eq_of_mem_lowerChar (hd : d ∈ lowerChar c) : c = d := by
  unfold lowerChar at hd
  split at hd
  · rcases List.mem_cons.mp hd with hi | hdot
    · exact absurd hi (h.ne_special (by simp))
    · exact absurd (List.mem_singleton.mp hdot) (h.ne_special (by simp))
  · rw [List.mem_singleton] at hd
    exact eq_of_mapChar_eq h (fun r hr => List.mem_append_left _ hr) hd.symm

theorem eq_of_mem_upperChar (hd : d ∈ upperChar c) : c = d := by
  unfold upperChar at hd
  split at hd
  · rename_i ns hlookup
    obtain ⟨n, hn, hdn⟩ := List.mem_map.mp hd
    obtain ⟨before, after, hlist, -⟩ := List.lookup_eq_some_iff.mp hlookup
    have hmem : (c.toNat, ns) ∈ upperExpansions :=
      hlist ▸ List.mem_append_right before List.mem_cons_self
    rw [toNat_eq_of_ofNat_eq h hdn] at hn
    exact absurd hn (h.notExpanded _ hmem)
  · rw [List.mem_singleton] at hd
    exact eq_of_mapChar_eq h (fun r hr => List.mem_append_right _ hr) hd.symm

theorem mem_of_mem_lowerAfter {before cs : List Char} (hd : d ∈ lowerAfter before cs) :
    d ∈ cs := by
  induction cs generalizing before with
  | nil => cases hd
  | cons c rest ih =>
    rw [lowerAfter, List.mem_append] at hd
    rcases hd with hfirst | hrest
    · split at hfirst
      · have hsigma := List.mem_singleton.mp hfirst
        split at hsigma
        · exact absurd hsigma (h.ne_special (by simp))
        · exact absurd hsigma (h.ne_special (by simp))
      · rw [eq_of_mem_lowerChar h hfirst]
        exact List.mem_cons_self
    · exact List.mem_cons_of_mem _ (ih hrest)

theorem mem_of_mem_lower {cs : List Char} (hd : d ∈ lower cs) : d ∈ cs :=
  mem_of_mem_lowerAfter h hd

end

theorem lowerChar_ne_nil (c : Char) : lowerChar c ≠ [] := by
  unfold lowerChar
  split <;> exact List.cons_ne_nil _ _

theorem lower_ne_nil {cs : List Char} (h : cs ≠ []) : lower cs ≠ [] := by
  obtain ⟨c, rest, rfl⟩ := List.exists_cons_of_ne_nil h
  rw [lower, lowerAfter]
  intro hnil
  have hfirst := (List.append_eq_nil_iff.mp hnil).1
  split at hfirst
  · cases hfirst
  · exact lowerChar_ne_nil c hfirst

theorem runs_eq_nil_iff {p : Char → Bool} {cs : List Char} :
    runs p cs = [] ↔ ∀ c ∈ cs, p c = false := by
  induction cs with
  | nil => simp
  | cons c rest ih =>
    rw [List.forall_mem_cons]
    cases hc : p c with
    | false => rw [runs_cons_of_not hc, ih, and_iff_right rfl]
    | true => simp [runs, openRuns, hc, closeRun]

end Text

namespace Naming

variable {name : String} {d : Char}

theorem exists_of_mem_joinWords (h : Text.Unmapped d) {ws : List (List Char)}
    (hd : d ∈ joinWords ws) : ∃ w ∈ ws, d ∈ w := by
  cases ws with
  | nil => cases hd
  | cons first rest =>
    rw [joinWords, List.mem_append] at hd
    rcases hd with hfirst | hrest
    · exact ⟨first, List.mem_cons_self, Text.mem_of_mem_lower h hfirst⟩
    · obtain ⟨w, hw, hdw⟩ := List.mem_flatMap.mp hrest
      refine ⟨w, List.mem_cons_of_mem _ hw, ?_⟩
      cases w with
      | nil => cases hdw
      | cons c w =>
        rw [capitalize, List.mem_append] at hdw
        rcases hdw with hupper | hlower
        · rw [Text.eq_of_mem_upperChar h hupper]
          exact List.mem_cons_self
        · exact List.mem_cons_of_mem _ (Text.mem_of_mem_lower h hlower)

theorem joinWords_eq_nil_iff {ws : List (List Char)} (h : ∀ w ∈ ws, w ≠ []) :
    joinWords ws = [] ↔ ws = [] := by
  cases ws with
  | nil => exact iff_of_true rfl rfl
  | cons first rest =>
    refine iff_of_false (fun hnil => ?_) (List.cons_ne_nil _ _)
    rw [joinWords] at hnil
    exact Text.lower_ne_nil (h first List.mem_cons_self) (List.append_eq_nil_iff.mp hnil).1

end Naming

/-- A data key has no character but letters, digits and what changing case gives. -/
theorem isAlphanumeric_of_mem_camelCase {name : String} {d : Char} (h : Text.Unmapped d)
    (hd : d ∈ (camelCase name).toList) :
    Text.isAlphanumeric d = true := by
  rw [camelCase, String.toList_ofList] at hd
  obtain ⟨w, hw, hdw⟩ := Naming.exists_of_mem_joinWords h hd
  exact (Text.mem_runs hw).2 d hdw

/-- A data key is empty exactly if there is no letter and no digit in the name. -/
theorem camelCase_eq_empty_iff {name : String} :
    camelCase name = "" ↔ ∀ c ∈ name.toList, Text.isAlphanumeric c = false := by
  rw [← Text.runs_eq_nil_iff, ← String.toList_inj, camelCase, String.toList_ofList]
  exact Naming.joinWords_eq_nil_iff fun w hw => (Text.mem_runs hw).1

end DocSections
