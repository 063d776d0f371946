import HeadEnd.Cluster.Failover

/-! When do the survivors of a failure agree with the database on who took over
what? Exactly when no two of them can pull at one orphan. -/
namespace HeadEnd.Cluster
open Transition DeviceManager

namespace Failure
variable {f : Failure} {s t : FailoverState} {m n d : Uuid} {es : List FailoverEvent}

section Sufficient

/-- No survivor receives anything: orphans end at nodes outside. -/
def Outside (f : Failure) (ds : Finset Uuid) (s : FailoverState) : Prop :=
  ∀ d ∈ ds, (∀ n ∈ f.survivors, s.db.owner d ≠ some n) ∧ ∀ n ∈ f.survivors, ¬ s.Holds n d

theorem Outside.agree {ds : Finset Uuid} (h : f.Outside ds s) : f.Agree ds s := by
  intro n hn d hd
  exact iff_of_false ((h d hd).2 n hn) ((h d hd).1 n hn)

theorem outside_of_run {s₀ : FailoverState}
    (hout : ∀ n ∈ f.survivors, ∀ r ∈ f.receivers s₀ n, r ∉ f.survivors)
    (hrun : Run f.Step s es t) (htidy : f.Tidy s₀ s) (h : f.Outside (f.orphans s₀) s) :
    f.Outside (f.orphans s₀) t := by
  refine (Tidy.induct _ ?_ ?_ hrun htidy h).2
  · intro u n orphaned _ hu _ _ _
    exact hu
  · intro u n p rest htidy' hu hn hw d hd
    have htarget := hout n hn p.2 (htidy'.pending n _ hw p List.mem_cons_self).2
    constructor
    · intro m hm ho
      by_cases h : d = p.1
      · rw [h, FailoverState.owner_assign_self (h ▸ htidy'.owner_isSome d hd)] at ho
        exact htarget (Option.some.inj ho ▸ hm)
      · rw [FailoverState.owner_assign_of_ne h] at ho
        exact (hu d hd).1 m hm ho
    · intro m hm hh
      rcases FailoverState.holds_assign.mp hh with ⟨hmn, -, hp⟩ | hold
      · exact htarget (hp ▸ hn)
      · exact (hu d hd).2 m hm hold

/-- A survivor on its own: what it has dealt with is settled, what is left on
its list it does not hold. -/
structure Settling (n : Uuid) (ds : Finset Uuid) (s : FailoverState) : Prop where
  idle : s.phase n = .idle → ∀ d ∈ ds, s.db.owner d = some f.failed ∧ ¬ s.Holds n d
  left : ∀ rest, s.phase n = .writing rest → ∀ d ∈ ds, d ∈ rest.map Prod.fst → ¬ s.Holds n d
  done : ∀ rest, s.phase n = .writing rest → ∀ d ∈ ds, d ∉ rest.map Prod.fst →
    (s.Holds n d ↔ s.db.owner d = some n)

theorem settling_of_run {s₀ : FailoverState} (hone : ∀ m ∈ f.survivors, m = n)
    (hrun : Run f.Step s es t) (htidy : f.Tidy s₀ s) (h : f.Settling n (f.orphans s₀) s) :
    f.Settling n (f.orphans s₀) t := by
  refine (Tidy.induct _ ?_ ?_ hrun htidy h).2
  · intro u m orphaned _ hu hm hidle hl
    obtain rfl := hone m hm
    have hall : ∀ d ∈ f.orphans s₀, d ∈ orphaned := by
      intro d hd
      exact hl.mem_iff.mpr (InnerDB.mem_getDevicesByOwner.mpr (hu.idle hidle d hd).1)
    refine ⟨fun hp => ?_, fun rest _ d hd _ => (hu.idle hidle d hd).2, fun rest hp d hd hnot => ?_⟩
    · rw [FailoverState.enter_phase_self] at hp
      cases hp
    · rw [FailoverState.enter_phase_self] at hp
      cases hp
      rw [map_fst_redistributionPlan] at hnot
      exact absurd (hall d hd) hnot
  · intro u m p rest htidy' hu hm hw
    obtain rfl := hone m hm
    have hfresh : p.1 ∉ rest.map Prod.fst := (List.nodup_cons.mp (htidy'.nodup m _ hw)).1
    have hphase : ∀ rest', (u.assign m p rest).phase m = .writing rest' → rest' = rest := by
      intro rest' hp
      rw [FailoverState.assign_phase_self] at hp
      cases hp
      rfl
    refine ⟨fun hp => ?_, fun rest' hp d hd hmem hh => ?_, fun rest' hp d hd hnot => ?_⟩
    · rw [FailoverState.assign_phase_self] at hp
      cases hp
    · obtain rfl := hphase rest' hp
      rcases FailoverState.holds_assign.mp hh with ⟨-, hdp, -⟩ | hold
      · exact hfresh (hdp ▸ hmem)
      · exact hu.left _ hw d hd (List.mem_cons_of_mem _ hmem) hold
    · obtain rfl := hphase rest' hp
      rw [FailoverState.holds_assign]
      by_cases h : d = p.1
      · have hno := hu.left _ hw d hd (h ▸ List.mem_cons_self)
        subst h
        rw [FailoverState.owner_assign_self (htidy'.owner_isSome _ hd), Option.some_inj]
        simp [hno]
      · rw [FailoverState.owner_assign_of_ne h]
        have := hu.done _ hw d hd (List.not_mem_cons_of_ne_of_not_mem h hnot)
        simp [h, this]

/-- Everything goes to `r`, which is alone or held all of it before. -/
structure Gathering (r : Uuid) (ds : Finset Uuid) (s : FailoverState) : Prop where
  owner : ∀ d ∈ ds, s.db.owner d = some f.failed ∨ s.db.owner d = some r
  left : ∀ rest, s.phase r = .writing rest → ∀ d ∈ ds, s.db.owner d = some f.failed →
    d ∈ rest.map Prod.fst
  held : ∀ d ∈ ds, s.db.owner d = some r ∨ f.survivors ≠ {r} → s.Holds r d
  others : ∀ n ∈ f.survivors, n ≠ r → ∀ d ∈ ds, ¬ s.Holds n d

theorem gathering_of_run {s₀ : FailoverState} {r : Uuid} (hr : r ∈ f.survivors)
    (hall : ∀ n ∈ f.survivors, ∀ x ∈ f.receivers s₀ n, x = r)
    (hrun : Run f.Step s es t) (htidy : f.Tidy s₀ s) (h : f.Gathering r (f.orphans s₀) s) :
    f.Gathering r (f.orphans s₀) t := by
  have hne : f.failed ≠ r := fun h => f.failed_notMem (h ▸ hr)
  refine (Tidy.induct _ ?_ ?_ hrun htidy h).2
  · intro u n orphaned _ hu _ _ hl
    refine ⟨hu.owner, fun rest hp d hd ho => ?_, hu.held, hu.others⟩
    by_cases h : r = n
    · subst h
      rw [FailoverState.enter_phase_self] at hp
      cases hp
      rw [map_fst_redistributionPlan]
      exact hl.mem_iff.mpr (InnerDB.mem_getDevicesByOwner.mpr ho)
    · rw [FailoverState.enter_phase_of_ne h] at hp
      exact hu.left rest hp d hd ho
  · intro u n p rest htidy' hu hn hw
    have hp2 : p.2 = r := hall n hn p.2 (htidy'.pending n _ hw p List.mem_cons_self).2
    have howner : ∀ d ∈ f.orphans s₀, d = p.1 → (u.assign n p rest).db.owner d = some r := by
      intro d hd h
      subst h
      rw [FailoverState.owner_assign_self (htidy'.owner_isSome _ hd), hp2]
    refine ⟨fun d hd => ?_, fun rest' hp d hd ho => ?_, fun d hd hcase => ?_,
      fun m hm hmr d hd hh => ?_⟩
    · by_cases h : d = p.1
      · exact .inr (howner d hd h)
      · rw [FailoverState.owner_assign_of_ne h]
        exact hu.owner d hd
    · have h : d ≠ p.1 := by
        intro h
        rw [howner d hd h] at ho
        exact hne (Option.some.inj ho).symm
      rw [FailoverState.owner_assign_of_ne h] at ho
      by_cases hrn : r = n
      · subst hrn
        rw [FailoverState.assign_phase_self] at hp
        cases hp
        exact List.mem_of_ne_of_mem h (hu.left _ hw d hd ho)
      · rw [FailoverState.assign_phase_of_ne hrn] at hp
        exact hu.left rest' hp d hd ho
    · rw [FailoverState.holds_assign]
      by_cases hrn : r = n
      · by_cases h : d = p.1
        · exact .inl ⟨hrn, h, hp2.trans hrn⟩
        · rw [FailoverState.owner_assign_of_ne h] at hcase
          exact .inr (hu.held d hd hcase)
      · -- a second survivor is at work, so `r` held everything from the start
        have htwo : f.survivors ≠ {r} := by
          intro hs
          rw [hs, Finset.mem_singleton] at hn
          exact hrn hn.symm
        exact .inr (hu.held d hd (.inr htwo))
    · rcases FailoverState.holds_assign.mp hh with ⟨hmn, -, hpn⟩ | hold
      · exact hmr (hmn.trans (hpn.symm.trans hp2))
      · exact hu.others m hm hmr d hd hold

end Sufficient

section Necessary

/-- A survivor that is left alone does what `redistributeFromFailed` does. -/
theorem exists_run_writing {rest : List (Uuid × Uuid)} (hn : n ∈ f.survivors)
    (hw : s.phase n = .writing rest) :
    ∃ es t, Run f.Step s es t ∧ t.phase n = .writing [] ∧
      (t.db, t.dm n) = rest.foldl assignOrphan (s.db, s.dm n) ∧
      ∀ m, m ≠ n → t.phase m = s.phase m ∧ t.dm m = s.dm m := by
  induction rest generalizing s with
  | nil => exact ⟨[], s, .nil s, hw, rfl, fun _ _ => ⟨rfl, rfl⟩⟩
  | cons p rest ih =>
    have hstep : f.Step s (.write n) (s.assign n p rest) := .write hn hw
    obtain ⟨es, t, hrun, hdone, hfold, hframe⟩ := ih FailoverState.assign_phase_self
    refine ⟨_, t, .cons hstep hrun, hdone, ?_, fun m hm => ?_⟩
    · rw [hfold, FailoverState.assign_dm_self, List.foldl_cons]
      rfl
    · rw [(hframe m hm).1, (hframe m hm).2]
      exact ⟨FailoverState.assign_phase_of_ne hm, FailoverState.assign_dm_of_ne hm⟩

theorem exists_run_alone (hn : n ∈ f.survivors) (hidle : s.phase n = .idle)
    {orphaned : List Uuid} (hl : Lists orphaned (s.db.getDevicesByOwner f.failed)) :
    ∃ es t, Run f.Step s es t ∧ t.phase n = .writing [] ∧
      (t.db, t.dm n) = redistributeFromFailed s.db (s.dm n) (f.view n) orphaned ∧
      ∀ m, m ≠ n → t.phase m = s.phase m ∧ t.dm m = s.dm m := by
  have hstep : f.Step s (.read n orphaned) _ := .read hn hidle hl
  obtain ⟨es, t, hrun, hdone, hfold, hframe⟩ :=
    exists_run_writing hn (s.enter_phase_self (n := n))
  refine ⟨_, t, .cons hstep hrun, hdone, ?_, fun m hm => ?_⟩
  · rw [hfold, redistributeFromFailed_eq]
    rfl
  · rw [(hframe m hm).1, (hframe m hm).2]
    exact ⟨FailoverState.enter_phase_of_ne hm, rfl⟩

theorem exists_run_finish (s : FailoverState) (ns : List Uuid) (hns : ∀ n ∈ ns, n ∈ f.survivors) :
    ∃ es t, Run f.Step s es t ∧ (∀ n ∈ ns, t.phase n = .writing []) ∧
      ∀ m, m ∉ ns → t.phase m = s.phase m := by
  induction ns generalizing s with
  | nil => exact ⟨[], s, .nil s, by simp, fun _ _ => rfl⟩
  | cons n ns ih =>
    have hn := hns n List.mem_cons_self
    have hone : ∃ es t, Run f.Step s es t ∧ t.phase n = .writing [] ∧
        ∀ m, m ≠ n → t.phase m = s.phase m := by
      cases hphase : s.phase n with
      | idle =>
        obtain ⟨l, hl⟩ := exists_lists (s.db.getDevicesByOwner f.failed)
        obtain ⟨es, t, hrun, hdone, -, hframe⟩ := exists_run_alone hn hphase hl
        exact ⟨es, t, hrun, hdone, fun m hm => (hframe m hm).1⟩
      | writing rest =>
        obtain ⟨es, t, hrun, hdone, -, hframe⟩ := exists_run_writing hn hphase
        exact ⟨es, t, hrun, hdone, fun m hm => (hframe m hm).1⟩
    obtain ⟨es, t, hrun, hdone, hframe⟩ := hone
    obtain ⟨es', u, hrun', hdone', hframe'⟩ :=
      ih t (fun m hm => hns m (List.mem_cons_of_mem n hm))
    refine ⟨es ++ es', u, hrun.append hrun', fun m hm => ?_, fun m hm => ?_⟩
    · by_cases h : m ∈ ns
      · exact hdone' m h
      · obtain rfl := (List.mem_cons.mp hm).resolve_right h
        rw [hframe' m h, hdone]
    · obtain ⟨hmn, hmns⟩ := not_or.mp (mt List.mem_cons.mpr hm)
      rw [hframe' m hmns, hframe m hmn]

theorem exists_run_read {orphaned : List Uuid} (ns : List Uuid) (hnd : ns.Nodup)
    (hns : ∀ n ∈ ns, n ∈ f.survivors ∧ s.phase n = .idle)
    (hl : Lists orphaned (s.db.getDevicesByOwner f.failed)) :
    ∃ es t, Run f.Step s es t ∧
      ∀ n ∈ ns, t.phase n = .writing (redistributionPlan (f.nodes s n) orphaned) := by
  suffices h : ∃ es t, Run f.Step s es t ∧ t.db = s.db ∧ t.dm = s.dm ∧
      (∀ n ∈ ns, t.phase n = .writing (redistributionPlan (f.nodes s n) orphaned)) ∧
      ∀ m, m ∉ ns → t.phase m = s.phase m by
    obtain ⟨es, t, hrun, -, -, hread, -⟩ := h
    exact ⟨es, t, hrun, hread⟩
  induction ns with
  | nil => exact ⟨[], s, .nil s, rfl, rfl, by simp, fun _ _ => rfl⟩
  | cons n ns ih =>
    obtain ⟨hfresh, hnd'⟩ := List.nodup_cons.mp hnd
    obtain ⟨es, t, hrun, hdb, hdm, hread, hframe⟩ :=
      ih hnd' (fun m hm => hns m (List.mem_cons_of_mem n hm))
    obtain ⟨hn, hidle⟩ := hns n List.mem_cons_self
    have hstep : f.Step t (.read n orphaned) _ :=
      .read hn ((hframe n hfresh).trans hidle) (hdb ▸ hl)
    have hnodes : f.nodes t n = f.nodes s n := by rw [nodes, nodes, hdm]
    rw [hnodes] at hstep
    refine ⟨es ++ [.read n orphaned], t.enter n _, hrun.append (.single hstep), hdb, hdm,
      fun m hm => ?_, fun m hm => ?_⟩
    · by_cases h : m = n
      · rw [h, FailoverState.enter_phase_self]
      · rw [FailoverState.enter_phase_of_ne h]
        exact hread m ((List.mem_cons.mp hm).resolve_left h)
    · obtain ⟨hmn, hmns⟩ := not_or.mp (mt List.mem_cons.mpr hm)
      rw [FailoverState.enter_phase_of_ne hmn, hframe m hmns]

/-- Given to the survivor `r` and on nobody's list, an orphan stays as it is. -/
structure Parked (r d : Uuid) (s t : FailoverState) : Prop where
  owner : t.db.owner d = some r
  unlisted : ∀ n rest, t.phase n = .writing rest → d ∉ rest.map Prod.fst
  holds : t.Holds r d → s.Holds r d

theorem parked_of_run {s₀ u : FailoverState} {r : Uuid} (hr : r ∈ f.survivors)
    (hrun : Run f.Step s es t) (htidy : f.Tidy s₀ s) (h : Parked r d u s) : Parked r d u t := by
  refine (Tidy.induct _ ?_ ?_ hrun htidy h).2
  · intro v n orphaned _ hv _ _ hl
    refine ⟨hv.owner, fun m rest hm => ?_, hv.holds⟩
    by_cases hmn : m = n
    · subst hmn
      rw [FailoverState.enter_phase_self] at hm
      cases hm
      rw [map_fst_redistributionPlan, hl.mem_iff, InnerDB.mem_getDevicesByOwner, hv.owner]
      exact fun h => f.failed_notMem (Option.some.inj h ▸ hr)
    · rw [FailoverState.enter_phase_of_ne hmn] at hm
      exact hv.unlisted m rest hm
  · intro v n p rest _ hv _ hw
    obtain ⟨hne, hrest⟩ := not_or.mp (mt List.mem_cons.mpr (hv.unlisted n _ hw))
    refine ⟨(FailoverState.owner_assign_of_ne hne).trans hv.owner, fun m rest' hm => ?_,
      fun hh => ?_⟩
    · by_cases hmn : m = n
      · subst hmn
        rw [FailoverState.assign_phase_self] at hm
        cases hm
        exact hrest
      · rw [FailoverState.assign_phase_of_ne hmn] at hm
        exact hv.unlisted m rest' hm
    · rcases FailoverState.holds_assign.mp hh with ⟨-, hd, -⟩ | hold
      · exact absurd hd hne
      · exact hv.holds hold

/-- What a survivor has listed for itself it will hold. -/
theorem holds_of_run {rest : List (Uuid × Uuid)} {s₀ : FailoverState} (hrun : Run f.Step s es t)
    (htidy : f.Tidy s₀ s) (hw : s.phase n = .writing rest) (hmem : (d, n) ∈ rest)
    (hdone : t.phase n = .writing []) : t.Holds n d := by
  have hinv : t.Holds n d ∨ ∃ rest, t.phase n = .writing rest ∧ (d, n) ∈ rest := by
    refine (Tidy.induct (fun s => s.Holds n d ∨ ∃ rest, s.phase n = .writing rest ∧ (d, n) ∈ rest)
      ?_ ?_ hrun htidy (.inr ⟨rest, hw, hmem⟩)).2
    · intro u m orphaned _ hu _ hidle _
      refine hu.imp_right ?_
      rintro ⟨rest, hphase, hin⟩
      have hne : n ≠ m := by
        intro h
        rw [h, hidle] at hphase
        cases hphase
      exact ⟨rest, (FailoverState.enter_phase_of_ne hne).trans hphase, hin⟩
    · intro u m p rest _ hu _ hw
      rcases hu with hold | ⟨rest', hphase, hin⟩
      · exact .inl (FailoverState.holds_assign.mpr (.inr hold))
      · by_cases hne : n = m
        · subst hne
          rw [hw] at hphase
          cases hphase
          rcases List.mem_cons.mp hin with hp | hlater
          · exact .inl (FailoverState.holds_assign.mpr (.inl ⟨rfl, hp ▸ rfl, hp ▸ rfl⟩))
          · exact .inr ⟨rest, FailoverState.assign_phase_self, hlater⟩
        · exact .inr ⟨rest', (FailoverState.assign_phase_of_ne hne).trans hphase, hin⟩
  rcases hinv with hold | ⟨rest', hphase, hin⟩
  · exact hold
  · rw [hdone] at hphase
    cases hphase
    cases hin

variable {db : InnerDB} {managers : Managers}

/-- The survivor that goes first gives any orphan to any of its receivers, and a
receiver other than itself never hears of it. -/
theorem exists_run_first {s : FailoverState} (hs : s = .start db managers) (hn : n ∈ f.survivors)
    (hd : d ∈ f.orphans s) {i : Nat} (hi : i < (f.orphans s).card)
    (hr : f.target s n i ∈ f.survivors) (hrn : f.target s n i ≠ n) :
    ∃ es t, Run f.Step s es t ∧ f.Finished t ∧ t.db.owner d = some (f.target s n i) ∧
      (t.Holds (f.target s n i) d → s.Holds (f.target s n i) d) := by
  obtain ⟨l, hl, hget⟩ := exists_lists_getElem? hd hi
  have hidle : ∀ m, s.phase m = .idle := fun m => by rw [hs]; rfl
  have htidy : f.Tidy s s := hs ▸ Tidy.start
  obtain ⟨es, t, hrun, hdone, hfold, hframe⟩ := exists_run_alone hn (hidle n) hl
  have howner : t.db.owner d = some (f.target s n i) := by
    have hdb := congrArg (fun st => st.1.owner d) hfold
    exact hdb.trans (redistributeFromFailed_owner hl.1 hget (htidy.owner_isSome d hd))
  have hparked : Parked (f.target s n i) d s t := by
    refine ⟨howner, fun m rest hm => ?_, fun hh => ?_⟩
    · by_cases hmn : m = n
      · rw [hmn, hdone] at hm
        cases hm
        exact List.not_mem_nil
      · rw [(hframe m hmn).1, hidle m] at hm
        cases hm
    · rw [FailoverState.Holds, (hframe _ hrn).2] at hh
      exact hh
  obtain ⟨es', u, hrun', hfin, -⟩ := exists_run_finish t f.survivors.toList
    (fun m hm => Finset.mem_toList.mp hm)
  have hend := parked_of_run hr hrun' (htidy.of_run hrun) hparked
  exact ⟨es ++ es', u, hrun.append hrun', fun m hm => hfin m (Finset.mem_toList.mpr hm),
    hend.owner, hend.holds⟩

/-- When all have read the same list, the survivor that writes last decides the
owner of an orphan, and everyone that had picked itself holds it. -/
theorem exists_run_last {s : FailoverState} (hs : s = .start db managers) (hm : m ∈ f.survivors)
    (hd : d ∈ f.orphans s) {i : Nat} (hi : i < (f.orphans s).card) :
    ∃ es t, Run f.Step s es t ∧ f.Finished t ∧ t.db.owner d = some (f.target s m i) ∧
      ∀ n ∈ f.survivors, s.Holds n d ∨ f.target s n i = n → t.Holds n d := by
  obtain ⟨l, hl, hget⟩ := exists_lists_getElem? hd hi
  have hidle : ∀ m, s.phase m = .idle := fun m => by rw [hs]; rfl
  have htidy : f.Tidy s s := hs ▸ Tidy.start
  obtain ⟨es₁, t₁, hrun₁, hread⟩ := exists_run_read f.survivors.toList f.survivors.nodup_toList
    (fun n hn => ⟨Finset.mem_toList.mp hn, hidle n⟩) hl
  obtain ⟨es₂, t₂, hrun₂, hfin₂, hframe₂⟩ := exists_run_finish t₁ (f.survivors.erase m).toList
    (fun n hn => Finset.mem_of_mem_erase (Finset.mem_toList.mp hn))
  have htidy₁ := htidy.of_run hrun₁
  have htidy₂ := htidy₁.of_run hrun₂
  have hlast : t₂.phase m = .writing (redistributionPlan (f.nodes s m) l) := by
    rw [hframe₂ m (by simp), hread m (Finset.mem_toList.mpr hm)]
  obtain ⟨es₃, t₃, hrun₃, hdone, hfold, hframe₃⟩ := exists_run_writing hm hlast
  have hfin : f.Finished t₃ := by
    intro n hn
    by_cases h : n = m
    · rw [h, hdone]
    · rw [(hframe₃ n h).1]
      exact hfin₂ n (Finset.mem_toList.mpr (Finset.mem_erase.mpr ⟨h, hn⟩))
  have hrun := hrun₂.append hrun₃
  refine ⟨es₁ ++ (es₂ ++ es₃), t₃, hrun₁.append hrun, hfin, ?_, fun n hn hcase => ?_⟩
  · have hdb := congrArg (fun st => st.1.owner d) hfold
    refine hdb.trans (foldl_assignOrphan_owner _ (htidy₂.nodup m _ hlast) ?_
      (htidy₂.owner_isSome d hd))
    exact mem_redistributionPlan.mpr ⟨i, hget, rfl⟩
  · rcases hcase with hold | hself
    · exact (htidy₁.of_run hrun).holds n d hold
    · refine holds_of_run hrun htidy₁ (hread n (Finset.mem_toList.mpr hn)) ?_ (hfin n hn)
      exact mem_redistributionPlan.mpr ⟨i, hget, hself⟩

end Necessary

/-- However the database calls interleave, the survivors end in agreement. -/
def AlwaysAgree (f : Failure) (s : FailoverState) : Prop :=
  ∀ es t, Run f.Step s es t → f.Finished t → f.Agree (f.orphans s) t

section Characterisation
variable {db : InnerDB} {managers : Managers}

theorem Compatible.alwaysAgree (h : f.Compatible (.start db managers)) :
    f.AlwaysAgree (.start db managers) := by
  intro es t hrun hfin
  have htidy : f.Tidy (.start db managers) (.start db managers) := Tidy.start
  have hfailed : ∀ d ∈ f.orphans (.start db managers), db.owner d = some f.failed :=
    fun d hd => InnerDB.mem_getDevicesByOwner.mp hd
  have hsome : ∀ n ∈ f.survivors, ∀ o : Option Uuid, o = some f.failed → o ≠ some n := by
    intro n hn o ho hn'
    rw [ho] at hn'
    exact f.failed_notMem (Option.some.inj hn' ▸ hn)
  rcases h with hempty | ⟨hnone, hone | hout⟩ | ⟨r, hr, hall, hcase⟩
  · intro n _ d hd
    rw [hempty] at hd
    cases hd
  · intro n hn d hd
    have hsingle : ∀ m ∈ f.survivors, m = n := fun m hm => Finset.card_le_one.mp hone m hm n hn
    have hstart : f.Settling n (f.orphans (.start db managers)) (.start db managers) :=
      ⟨fun _ d hd => ⟨hfailed d hd, hnone n hn d hd⟩, fun _ hw => (nomatch hw),
        fun _ hw => (nomatch hw)⟩
    exact (settling_of_run hsingle hrun htidy hstart).done [] (hfin n hn) d hd List.not_mem_nil
  · refine (outside_of_run hout hrun htidy fun d hd => ⟨fun n hn => ?_, fun n hn => ?_⟩).agree
    · exact hsome n hn _ (hfailed d hd)
    · exact hnone n hn d hd
  · have hstart : f.Gathering r (f.orphans (.start db managers)) (.start db managers) := by
      refine ⟨fun d hd => .inl (hfailed d hd), fun _ hw => (nomatch hw), fun d hd h => ?_,
        fun n hn hnr d hd hh => ?_⟩
      · rcases hcase with hsing | hheld
        · exact absurd (h.resolve_right (not_not_intro hsing)) (hsome r hr _ (hfailed d hd))
        · exact (hheld r hr d hd).mpr rfl
      · rcases hcase with hsing | hheld
        · exact hnr (Finset.mem_singleton.mp (hsing ▸ hn))
        · exact hnr ((hheld n hn d hd).mp hh)
    have hend := gathering_of_run hr hall hrun htidy hstart
    intro n hn d hd
    have howner : t.db.owner d = some r := by
      refine (hend.owner d hd).resolve_left fun ho => ?_
      exact List.not_mem_nil (hend.left [] (hfin r hr) d hd ho)
    rw [howner, Option.some_inj]
    constructor
    · intro hh
      by_contra hne
      exact hend.others n hn (Ne.symm hne) d hd hh
    · intro h
      exact h ▸ hend.held d hd (.inl howner)

/-- A survivor that another one gives orphans to must have held all of them. -/
theorem AlwaysAgree.holds (h : f.AlwaysAgree (.start db managers)) (hn : n ∈ f.survivors)
    {i : Nat} (hi : i < (f.orphans (.start db managers)).card)
    (hr : f.target (.start db managers) n i ∈ f.survivors)
    (hrn : f.target (.start db managers) n i ≠ n) (hd : d ∈ f.orphans (.start db managers)) :
    (FailoverState.start db managers).Holds (f.target (.start db managers) n i) d := by
  obtain ⟨es, t, hrun, hfin, howner, hback⟩ := exists_run_first rfl hn hd hi hr hrn
  exact hback ((h es t hrun hfin _ hr d hd).mpr howner)

/-- A survivor that held an orphan, or picks itself for it, is everyone's pick. -/
theorem AlwaysAgree.target_eq (h : f.AlwaysAgree (.start db managers)) (hn : n ∈ f.survivors)
    {i : Nat} (hi : i < (f.orphans (.start db managers)).card)
    (hd : d ∈ f.orphans (.start db managers))
    (hcase : (FailoverState.start db managers).Holds n d ∨ f.target (.start db managers) n i = n)
    (hm : m ∈ f.survivors) : f.target (.start db managers) m i = n := by
  obtain ⟨es, t, hrun, hfin, howner, hheld⟩ := exists_run_last rfl hm hd hi
  have ho := (h es t hrun hfin n hn d hd).mp (hheld n hn hcase)
  rw [howner] at ho
  exact Option.some.inj ho

theorem AlwaysAgree.compatible (h : f.AlwaysAgree (.start db managers)) :
    f.Compatible (.start db managers) := by
  rcases Finset.eq_empty_or_nonempty (f.orphans (.start db managers)) with hempty | ⟨d₀, hd₀⟩
  · exact .inl hempty
  have hpos : 0 < (f.orphans (.start db managers)).card := Finset.card_pos.mpr ⟨d₀, hd₀⟩
  by_cases hcross : ∃ n ∈ f.survivors, ∃ i < (f.orphans (.start db managers)).card,
      f.target (.start db managers) n i ∈ f.survivors ∧ f.target (.start db managers) n i ≠ n
  · obtain ⟨n, hn, i, hi, hr, hrn⟩ := hcross
    have hheld : ∀ d ∈ f.orphans (.start db managers),
        (FailoverState.start db managers).Holds (f.target (.start db managers) n i) d :=
      fun d hd => h.holds hn hi hr hrn hd
    refine .inr (.inr ⟨_, hr, fun m hm x hx => ?_, .inr fun m hm d hd => ⟨fun hh => ?_, ?_⟩⟩)
    · obtain ⟨j, hj, rfl⟩ := mem_receivers.mp hx
      exact h.target_eq hr hj hd₀ (.inl (hheld d₀ hd₀)) hm
    · have hself := h.target_eq hm hpos hd (.inl hh) hm
      exact hself.symm.trans (h.target_eq hr hpos hd (.inl (hheld d hd)) hm)
    · rintro rfl
      exact hheld d hd
  · have hself : ∀ n ∈ f.survivors, ∀ i < (f.orphans (.start db managers)).card,
        f.target (.start db managers) n i ∈ f.survivors →
          f.target (.start db managers) n i = n := by
      intro n hn i hi hr
      by_contra hrn
      exact hcross ⟨n, hn, i, hi, hr, hrn⟩
    have hunique : ∀ n ∈ f.survivors, ∀ i < (f.orphans (.start db managers)).card,
        ∀ d ∈ f.orphans (.start db managers),
        (FailoverState.start db managers).Holds n d ∨ f.target (.start db managers) n i = n →
        ∀ m ∈ f.survivors, m = n := by
      intro n hn i hi d hd hcase m hm
      have htarget := h.target_eq hn hi hd hcase hm
      exact (hself m hm i hi (htarget ▸ hn)).symm.trans htarget
    by_cases hheld : ∃ n ∈ f.survivors, ∃ d ∈ f.orphans (.start db managers),
        (FailoverState.start db managers).Holds n d
    · obtain ⟨n, hn, d, hd, hh⟩ := hheld
      refine .inr (.inr ⟨n, hn, fun m hm x hx => ?_, .inl ?_⟩)
      · obtain ⟨j, hj, rfl⟩ := mem_receivers.mp hx
        exact h.target_eq hn hj hd (.inl hh) hm
      · exact Finset.eq_singleton_iff_unique_mem.mpr ⟨hn, hunique n hn 0 hpos d hd (.inl hh)⟩
    · refine .inr (.inl ⟨fun n hn d hd hh => hheld ⟨n, hn, d, hd, hh⟩, ?_⟩)
      by_cases hone : f.survivors.card ≤ 1
      · exact .inl hone
      · refine .inr fun n hn r hr hrS => hone (Finset.card_le_one.mpr fun a ha b hb => ?_)
        obtain ⟨i, hi, rfl⟩ := mem_receivers.mp hr
        have hall := hunique n hn i hi d₀ hd₀ (.inr (hself n hn i hi hrS))
        rw [hall a ha, hall b hb]

/-- Whatever the order of the database calls, the survivors of a failure agree
with the database in the end, if and only if the failure is `Compatible`. -/
theorem failover_agreement_iff (f : Failure) (db : InnerDB) (managers : Managers) :
    (∀ es t, Run f.Step (.start db managers) es t → f.Finished t →
      f.Agree (f.orphans (.start db managers)) t) ↔ f.Compatible (.start db managers) :=
  ⟨AlwaysAgree.compatible, Compatible.alwaysAgree⟩

/- Nodes 1 and 2 survive node 3, which owned device 9. Each sees the other as
   active with no devices, and a tie goes to the other. -/
def pairFailure : Failure where
  failed := 3
  survivors := {1, 2}
  failed_notMem := by decide
  view n := if n = 1 then [(2, 0)] else [(1, 0)]

def oneOrphan : InnerDB := InnerDB.new.addDeviceToBucket 9 0 3

def noDevices : Managers where
  dm n := ⟨n, ∅, ⟨24, .empty, some ∅, n, false⟩⟩
  localNodeId_dm _ := rfl

/-- The first to run hands device 9 to the other, which then finds no orphan. -/
theorem failover_disagreement :
    ¬ ∀ es t, Run pairFailure.Step (.start oneOrphan noDevices) es t → pairFailure.Finished t →
      pairFailure.Agree (pairFailure.orphans (.start oneOrphan noDevices)) t := by
  intro h
  have htarget : pairFailure.target (.start oneOrphan noDevices) 1 0 = 2 := by decide
  have horphan : (9 : Uuid) ∈ pairFailure.orphans (.start oneOrphan noDevices) := by decide
  have hr : (2 : Uuid) ∈ pairFailure.survivors := by decide
  obtain ⟨es, t, hrun, hfin, howner, hback⟩ := exists_run_first rfl (n := 1) (by decide) horphan
    (Finset.card_pos.mpr ⟨9, horphan⟩) (htarget ▸ hr) (by rw [htarget]; decide)
  rw [htarget] at howner hback
  have hheld := hback ((h es t hrun hfin 2 hr 9 horphan).mpr howner)
  exact Finset.notMem_empty _ hheld

end Characterisation

end Failure

end HeadEnd.Cluster
