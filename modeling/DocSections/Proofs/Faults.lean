import DocSections.Proofs.Composition

/-! Where composition ends with a fault, the fault is about a section next to those that were being
composed or checked, and it is true of that section. -/

namespace DocSections

namespace Composer

/-- The faults that can be found among sections of one parent, each with what makes it true. -/
inductive Blames (c : Composer) (siblings : List Section) : CompositionFault → Prop
  | missingFactory {s : Section} : s ∈ siblings → s.Applies c.documentType →
      c.factory? s.id = none → Blames c siblings (.missingFactory s.id s.name)
  | unspecifiedApplicability {s : Section} : s ∈ siblings → s.isPlaceholder = false →
      s.applicability.get? c.documentType = none →
      Blames c siblings (.unspecifiedApplicability s.id c.documentType)
  | unregisteredSection {s : Section} : s ∈ siblings → s.Applies c.documentType →
      (c.factory? s.id).isSome = true → Blames c siblings (.unregisteredSection s.id)
  | duplicateKey {before after : List Section} {s t : Section} :
      siblings = before ++ s :: after → t ∈ before → t.Applies c.documentType →
      s.Applies c.documentType → camelCase t.name = camelCase s.name →
      Blames c siblings (.duplicateKey c.family (camelCase s.name) s.id)

variable {c : Composer} {s : Section} {siblings : List Section} {os : List Outline}
  {keys : List String} {index : ShapeIndex} {fault : CompositionFault}

theorem Blames.mono {siblings' : List Section} (h : c.Blames siblings fault)
    (hsub : siblings.Sublist siblings') : c.Blames siblings' fault := by
  cases h with
  | missingFactory hs ha hf => exact .missingFactory (hsub.subset hs) ha hf
  | unspecifiedApplicability hs hp ha => exact .unspecifiedApplicability (hsub.subset hs) hp ha
  | unregisteredSection hs ha hf => exact .unregisteredSection (hsub.subset hs) ha hf
  | @duplicateKey before after s t he ht hta hsa hkey =>
    subst he
    obtain ⟨first, second, rfl, hfirst, hsecond⟩ := List.append_sublist_iff.mp hsub
    obtain ⟨upTo, rest, rfl, hs, -⟩ := List.cons_sublist_iff.mp hsecond
    obtain ⟨between, others, rfl⟩ := List.append_of_mem hs
    have hsplit : first ++ (between ++ s :: others ++ rest) =
        (first ++ between) ++ s :: (others ++ rest) := by simp
    exact .duplicateKey hsplit (List.mem_append_left _ (hfirst.subset ht)) hta hsa hkey

theorem blames_of_checkChildren (h : c.checkChildren index siblings = .error fault) :
    c.Blames siblings fault := by
  induction siblings with
  | nil => cases h
  | cons u rest ih =>
    rw [checkChildren] at h
    cases hp : u.isPlaceholder with
    | true =>
      rw [hp, if_pos rfl] at h
      exact (ih h).mono (List.sublist_cons_self _ _)
    | false =>
      rw [hp, if_neg Bool.false_ne_true] at h
      cases ha : u.applicability.get? c.documentType with
      | none =>
        rw [Section.applicabilityFor, ha] at h
        cases h
        exact .unspecifiedApplicability List.mem_cons_self hp ha
      | some a =>
        rw [Section.applicabilityFor_eq_ok_iff.mpr ha] at h
        simp only [bind, Except.bind] at h
        split_ifs at h with hskip hfactory
        · exact (ih h).mono (List.sublist_cons_self _ _)
        · obtain ⟨hne, -⟩ := not_or.mp hskip
          cases h
          exact .missingFactory List.mem_cons_self ((Section.applies_iff_ne_omitted hp ha).mpr hne)
            (Option.isNone_iff_eq_none.mp hfactory)
        · obtain ⟨hne, -⟩ := not_or.mp hskip
          cases h
          rw [Option.isNone_iff_eq_none] at hfactory
          exact .unregisteredSection List.mem_cons_self
            ((Section.applies_iff_ne_omitted hp ha).mpr hne)
            (Option.isSome_iff_ne_none.mpr hfactory)

/-- How composing one section ends with a fault: by itself, by what is composed below it, or by the
check of the sections right under it. -/
inductive FailsAt (c : Composer) (s : Section) (os : List Outline) : CompositionFault → Prop
  | here {fault : CompositionFault} : c.Blames [s] fault → FailsAt c s os fault
  | below {fault : CompositionFault} {index : ShapeIndex} : s.Applies c.documentType →
      c.Opens s → c.composeAll os [] index = .error fault → FailsAt c s os fault
  | children {fault : CompositionFault} : s.Applies c.documentType →
      c.Blames (os.map Outline.top) fault → FailsAt c s os fault

theorem failsAt_of_compose (h : c.compose (.node s os) index = .error fault) :
    c.FailsAt s os fault := by
  rw [compose, composeSection] at h
  cases hp : s.isPlaceholder with
  | true =>
    rw [hp, if_pos rfl] at h
    cases h
  | false =>
    rw [hp, if_neg Bool.false_ne_true] at h
    cases ha : s.applicability.get? c.documentType with
    | none =>
      rw [Section.applicabilityFor, ha] at h
      cases h
      exact .here (.unspecifiedApplicability List.mem_cons_self hp ha)
    | some a =>
      rw [Section.applicabilityFor_eq_ok_iff.mpr ha] at h
      simp only [bind, Except.bind, composeApplicable] at h
      split_ifs at h with homitted
      have happlies : s.Applies c.documentType :=
        (Section.applies_iff_ne_omitted hp ha).mpr homitted
      cases hf : c.factory? s.id with
      | none =>
        rw [hf] at h
        cases h
        exact .here (.missingFactory List.mem_cons_self happlies hf)
      | some factory =>
        simp only [hf, make_eq] at h
        -- a factory that opens nothing composes nothing, so only an open section fails below
        cases hb : c.composeAll (if factory.opens then os else []) [] index with
        | error below =>
          rw [hb] at h
          cases h
          cases ho : factory.opens with
          | true =>
            rw [ho, if_pos rfl] at hb
            exact .below happlies ((opens_iff hf).mpr ho) hb
          | false =>
            rw [ho, if_neg Bool.false_ne_true] at hb
            cases hb
        | ok made =>
          simp only [hb, Except.bind] at h
          split_ifs at h with hown
          · split at h
            · rename_i hchildren
              cases h
              exact .children happlies (blames_of_checkChildren hchildren)
            · cases h
          · cases h
            exact .here (.unregisteredSection List.mem_cons_self happlies (by rw [hf]; rfl))

theorem applies_of_compose_some {o : Outline} {field : Field} {index' : ShapeIndex}
    (h : c.compose o index = .ok (some field, index')) :
    o.top.Applies c.documentType ∧ field.1 = camelCase o.top.name := by
  obtain ⟨hfield, -⟩ := compose_eq_ok o h
  split_ifs at hfield with ha
  cases hfield
  exact ⟨ha, rfl⟩

/-- Composing sections one after another ends with the fault of one of them, or at the first whose
key is one of `keys` or that of a section before it. -/
theorem composeAll_error_cases (h : c.composeAll os keys index = .error fault) :
    (∃ o ∈ os, ∃ index, c.compose o index = .error fault) ∨
      ∃ before o after, os = before ++ o :: after ∧ o.top.Applies c.documentType ∧
        (camelCase o.top.name ∈ keys ∨ ∃ t ∈ before, t.top.Applies c.documentType ∧
          camelCase t.top.name = camelCase o.top.name) ∧
        fault = .duplicateKey c.family (camelCase o.top.name) o.top.id := by
  induction os generalizing keys index with
  | nil => cases h
  | cons o rest ih =>
    rw [composeAll] at h
    simp only [bind, Except.bind] at h
    cases hc : c.compose o index with
    | error own =>
      rw [hc] at h
      cases h
      exact .inl ⟨o, List.mem_cons_self, index, hc⟩
    | ok made =>
      obtain ⟨field, mid⟩ := made
      rw [hc] at h
      cases field with
      | none =>
        rcases ih h with ⟨u, hu, hfault⟩ | ⟨before, u, after, rfl, ha, hkey, hfault⟩
        · exact .inl ⟨u, List.mem_cons_of_mem _ hu, hfault⟩
        · refine .inr ⟨o :: before, u, after, rfl, ha, hkey.imp_right ?_, hfault⟩
          rintro ⟨t, ht, htkey⟩
          exact ⟨t, List.mem_cons_of_mem _ ht, htkey⟩
      | some own =>
        obtain ⟨hoa, hown⟩ := applies_of_compose_some hc
        simp only [addField, bind, Except.bind] at h
        split_ifs at h with hk
        · cases h
          rw [hown] at hk ⊢
          exact .inr ⟨[], o, rest, rfl, hoa, .inl (List.contains_iff_mem.mp hk), rfl⟩
        · split at h
          · rename_i hrest
            cases h
            rcases ih hrest with ⟨u, hu, hfault⟩ | ⟨before, u, after, rfl, ha, hkey, hfault⟩
            · exact .inl ⟨u, List.mem_cons_of_mem _ hu, hfault⟩
            · refine .inr ⟨o :: before, u, after, rfl, ha, ?_, hfault⟩
              -- the key of `o` was added to the keys, and `o` now stands before `u`
              rcases hkey with hkey | ⟨t, ht, htkey⟩
              · rcases List.mem_cons.mp hkey with hkey | hkey
                · exact .inr ⟨o, List.mem_cons_self, hoa, hown ▸ hkey.symm⟩
                · exact .inl hkey
              · exact .inr ⟨t, List.mem_cons_of_mem _ ht, htkey⟩
          · cases h

/-- A fault is about the sections under the place where composition began, or right under a section
that composition met on the way. -/
theorem exists_blames_of_composeAll {f : Family} {parent : String}
    (h : c.composeAll ((f.childrenOf parent).map f.branch) [] index = .error fault) :
    ∃ place, (place = parent ∨ ∃ p, f.Visited c.documentType c.Opens parent p ∧ place = p.id) ∧
      c.Blames (f.childrenOf place) fault := by
  induction parent using f.children_induction generalizing index with
  | step parent ih =>
    rcases composeAll_error_cases h with
      ⟨o, ho, before, hc⟩ | ⟨before, o, after, hos, ha, hkey, rfl⟩
    · obtain ⟨u, hu, rfl⟩ := List.mem_map.mp ho
      rw [Family.branch_eq] at hc
      cases failsAt_of_compose hc with
      | here hblames => exact ⟨parent, .inl rfl, hblames.mono (List.singleton_sublist.mpr hu)⟩
      | below ha hopens hbelow =>
        obtain ⟨place, hplace, hblames⟩ := ih u hu hbelow
        refine ⟨place, .inr ?_, hblames⟩
        rcases hplace with rfl | ⟨p, hp, rfl⟩
        · exact ⟨u, .top hu ha, rfl⟩
        · exact ⟨p, hp.descend hu ha hopens, rfl⟩
      | children ha hblames =>
        rw [Family.map_top_branch] at hblames
        exact ⟨u.id, .inr ⟨u, .top hu ha, rfl⟩, hblames⟩
    · obtain ⟨t, ht, hta, htkey⟩ := hkey.resolve_left List.not_mem_nil
      refine ⟨parent, .inl rfl, ?_⟩
      have hsiblings : f.childrenOf parent =
          before.map Outline.top ++ o.top :: after.map Outline.top := by
        rw [← Family.map_top_branch f (f.childrenOf parent), hos, List.map_append, List.map_cons]
      exact .duplicateKey hsiblings (List.mem_map_of_mem ht) hta ha htkey

end Composer

theorem Registry.exists_blames_of_composeFamily {r : Registry} {f : Family} {d : DocumentType}
    {fault : CompositionFault} (h : r.composeFamily f d = .error fault) :
    ∃ place, (place = f.rootId ∨ ∃ p, r.Runs f d p ∧ place = p.id) ∧
      (r.composer f d).Blames (f.childrenOf place) fault := by
  rw [composeFamily_eq] at h
  cases hc : (r.composer f d).composeAll (f.topLevel.map f.branch) [] .empty with
  | ok result =>
    rw [hc] at h
    cases h
  | error own =>
    rw [hc] at h
    cases h
    exact Composer.exists_blames_of_composeAll hc

end DocSections
