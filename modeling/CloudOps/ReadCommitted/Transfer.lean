import CloudOps.ReadCommitted.Rely

namespace CloudOps.ReadCommitted

variable {K R ε α γ δ C D : Type} [DecidableEq K]

-- The same tables and clock in a world whose calls are of another kind.
def World.forget (world : World K R γ C) : World K R δ D := ⟨world.committed, world.clock, []⟩

namespace Prog

variable {rely : World K R γ C → World K R γ C → Prop} {inv : World K R γ C → Prop}
  {prog : Prog K R ε α} {world : World K R γ C} {writes : Table K R}

theorem wpAborted_true (prog : Prog K R ε α) (world : World K R γ C) :
    prog.wpAborted rely inv (fun _ _ _ => True) world := by
  induction prog generalizing world with
  | ret value => exact fun _ _ => trivial
  | clock next ih => exact fun after _ => ih _ after
  | throw _ | select _ _ | write _ _ _ | insert _ _ => trivial

theorem wp_true (prog : Prog K R ε α) (writes : Table K R) (world : World K R γ C) :
    prog.wp rely inv (fun _ _ _ => True) writes world := by
  induction prog generalizing writes world with
  | ret value => exact fun _ _ => trivial
  | throw _ => trivial
  | clock next ih => exact fun after _ => ih _ writes after
  | select matching next ih => exact fun after _ rows _ => ih rows writes after
  | write id change next ih => exact fun after _ => ⟨fun _ => ih _ _ after, fun _ _ => ih _ _ after⟩
  | insert row next ih => exact fun after _ => ⟨fun _ _ _ => ih _ _ after, wpAborted_true _ after⟩

variable {post other : World K R γ C → Table K R → α → Prop}

-- Two things that a transaction has established each, it has established together.
theorem wpAborted.and (h : prog.wpAborted rely inv post world) (hother : prog.wpAborted rely inv other world) :
    prog.wpAborted rely inv (fun world writes value => post world writes value ∧ other world writes value)
      world := by
  induction prog generalizing world with
  | ret value => exact fun after ha => ⟨h after ha, hother after ha⟩
  | clock next ih => exact fun after ha => ih _ (h after ha) (hother after ha)
  | throw _ | select _ _ | write _ _ _ | insert _ _ => trivial

theorem wp.and (h : prog.wp rely inv post writes world) (hother : prog.wp rely inv other writes world) :
    prog.wp rely inv (fun world writes value => post world writes value ∧ other world writes value)
      writes world := by
  induction prog generalizing writes world with
  | ret value => exact fun after ha => ⟨h after ha, hother after ha⟩
  | throw _ => trivial
  | clock next ih => exact fun after ha => ih _ (h after ha) (hother after ha)
  | select matching next ih => exact fun after ha rows hp => ih _ (h after ha rows hp) (hother after ha rows hp)
  | write id change next ih =>
      intro after ha
      obtain ⟨hnone, hsome⟩ := h after ha
      obtain ⟨hotherNone, hotherSome⟩ := hother after ha
      exact ⟨fun hc => ih _ (hnone hc) (hotherNone hc), fun row hc => ih _ (hsome row hc) (hotherSome row hc)⟩
  | insert row next ih =>
      intro after ha
      obtain ⟨hfresh, hclash⟩ := h after ha
      obtain ⟨hotherFresh, hotherClash⟩ := hother after ha
      exact ⟨fun id hw hc => ih _ (hfresh id hw hc) (hotherFresh id hw hc), hclash.and hotherClash⟩

variable {wide : World K R δ D → World K R δ D → Prop} {wideInv : World K R δ D → Prop}
  {widePost : World K R δ D → Table K R → α → Prop}

-- What a transaction establishes whatever the others do, it establishes among others of
-- another kind, of which more may be known.
theorem wpAborted.forget (hrely : ∀ before after, rely before after → wide before.forget after.forget)
    (hinv : ∀ world, inv world → wideInv world.forget)
    (h : prog.wpAborted wide wideInv widePost world.forget) :
    prog.wpAborted rely inv (fun world writes value => widePost world.forget writes value) world := by
  induction prog generalizing world with
  | ret value => exact fun after ha => h after.forget ⟨hrely _ _ ha.1, hinv _ ha.2.1, ha.2.2⟩
  | clock next ih => exact fun after ha => ih _ (h after.forget ⟨hrely _ _ ha.1, hinv _ ha.2.1, ha.2.2⟩)
  | throw _ | select _ _ | write _ _ _ | insert _ _ => trivial

theorem wp.forget (hrely : ∀ before after, rely before after → wide before.forget after.forget)
    (hinv : ∀ world, inv world → wideInv world.forget)
    (h : prog.wp wide wideInv widePost writes world.forget) :
    prog.wp rely inv (fun world writes value => widePost world.forget writes value) writes world := by
  have hinterferes : ∀ {writes before after}, Interferes rely inv writes before after →
      Interferes wide wideInv writes before.forget after.forget :=
    fun ha => ⟨hrely _ _ ha.1, hinv _ ha.2.1, ha.2.2⟩
  induction prog generalizing writes world with
  | ret value => exact fun after ha => h after.forget (hinterferes ha)
  | throw _ => trivial
  | clock next ih => exact fun after ha => ih _ (h after.forget (hinterferes ha))
  | select matching next ih => exact fun after ha rows hp => ih _ (h after.forget (hinterferes ha) rows hp)
  | write id change next ih =>
      intro after ha
      obtain ⟨hnone, hsome⟩ := h after.forget (hinterferes ha)
      exact ⟨fun hc => ih _ (hnone hc), fun row hc => ih _ (hsome row hc)⟩
  | insert row next ih =>
      intro after ha
      obtain ⟨hfresh, hclash⟩ := h after.forget (hinterferes ha)
      exact ⟨fun id hw hc => ih _ (hfresh id hw hc), hclash.forget hrely hinv⟩

end Prog

namespace Table

variable {first second : Table K R}

-- Each row of the one selection has its key in the list or in the other selection.
theorem length_filter_rows_le (matching other : K → R → Bool) (keys : List K)
    (h : ∀ id row, first.lookup id = some row → matching id row = true →
      id ∈ keys ∨ ∃ found, second.lookup id = some found ∧ other id found = true) :
    (first.rows.filter fun row => matching row.1 row.2).length ≤
      keys.length + (second.rows.filter fun row => other row.1 row.2).length := by
  have hnodup : ((first.rows.filter fun row => matching row.1 row.2).map Prod.fst).Nodup :=
    nodup_ids_of_perm (.refl _)
  have hsubset : ((first.rows.filter fun row => matching row.1 row.2).map Prod.fst) ⊆
      keys ++ (second.rows.filter fun row => other row.1 row.2).map Prod.fst := by
    intro id hid
    obtain ⟨⟨_, row⟩, hrow, rfl⟩ := List.mem_map.mp hid
    obtain ⟨hmem, hmatching⟩ := List.mem_filter.mp hrow
    rw [List.mem_append]
    rcases h _ row (mem_rows.mp hmem) hmatching with hkey | ⟨found, hfound, hother⟩
    · exact .inl hkey
    · exact .inr (List.mem_map.mpr ⟨(_, found), List.mem_filter.mpr ⟨mem_rows.mpr hfound, hother⟩, rfl⟩)
  have hle := (List.subperm_of_subset hnodup hsubset).length_le
  rwa [List.length_map, List.length_append, List.length_map] at hle

end Table

end CloudOps.ReadCommitted
