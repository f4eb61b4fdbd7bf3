import WalnutGateway.Storage.PurgeComplete

/-!
# What a purge touches

However a purge ends, it tried to delete nothing but regular files that stood in its folder, by
their paths in it, and it leaves everything that it does not try.
-/

namespace WalnutGateway

/-- Between two states of a folder nothing was tried but the files in it that may be purged, and
nothing else is gone. -/
structure Touched (folder : List Byte) (dir dir' : DirState) : Prop where
  sublist : dir'.entries.Sublist dir.entries
  kept : ∀ e ∈ dir.entries, ¬ purgeable folder e = true → e ∈ dir'.entries
  tried : ∃ tried, dir'.log = dir.log ++ tried ∧
    ∀ call ∈ tried, ∃ e ∈ dir.entries, purgeable folder e = true ∧ call.1 = folder ++ e.fileName

section

variable {deletes : Nat → List Byte → Bool} {folder : List Byte}

theorem Touched.refl (dir : DirState) : Touched folder dir dir where
  sublist := List.Sublist.refl _
  kept _ he _ := he
  tried := ⟨[], (List.append_nil _).symm, fun _ hcall => absurd hcall List.not_mem_nil⟩

theorem Touched.trans {a b c : DirState} (h : Touched folder a b) (h' : Touched folder b c) :
    Touched folder a c where
  sublist := h'.sublist.trans h.sublist
  kept e he hnot := h'.kept e (h.kept e he hnot) hnot
  tried := by
    obtain ⟨first, hfirst, hallowed⟩ := h.tried
    obtain ⟨second, hsecond, hallowed'⟩ := h'.tried
    refine ⟨first ++ second, by rw [hsecond, hfirst, List.append_assoc], fun call hcall => ?_⟩
    rcases List.mem_append.mp hcall with hcall | hcall
    · exact hallowed call hcall
    · obtain ⟨e, he, hpurge, hpath⟩ := hallowed' call hcall
      exact ⟨e, h.sublist.subset he, hpurge, hpath⟩

variable (deletes) in
/-- One entry of a batch. -/
theorem purgeEntry_touched {p : PurgeState} (h : ListedEntries folder p.dir.entries)
    {e : DirFileInfo} (he : e ∈ p.dir.entries) :
    Touched folder p.dir (purgeEntry deletes folder p e.toFileInfo).dir := by
  by_cases hpurge : purgeable folder e = true
  · have htried (ok : Bool) : ∀ call ∈ [(folder ++ e.fileName, ok)],
        ∃ e ∈ p.dir.entries, purgeable folder e = true ∧ call.1 = folder ++ e.fileName := by
      intro call hcall
      rw [List.mem_singleton.mp hcall]
      exact ⟨e, he, hpurge, rfl⟩
    rw [purgeEntry_of_purgeable (h.listed e he) hpurge]
    split
    · refine ⟨List.filter_sublist, fun e' he' hnot => ?_, _, rfl, htried true⟩
      refine List.mem_filter.mpr ⟨he', decide_eq_true fun hname => ?_⟩
      -- entries of one name are one entry, and this one may be purged
      obtain rfl := List.inj_on_of_nodup_map h.nodup he' he hname
      exact hnot hpurge
    · exact ⟨List.Sublist.refl _, fun _ he' _ => he', _, rfl, htried false⟩
  · obtain ⟨n, hcounted⟩ := purgeEntry_of_not_purgeable deletes (h.listed e he) hpurge p
    rw [hcounted]
    exact Touched.refl _

variable (deletes) in
/-- A batch that is listed and then gone through; an entry of it may be gone by its turn only if
it is the one that was deleted, and names do not repeat. -/
theorem foldl_purgeEntry_touched {batch : List DirFileInfo} {p : PurgeState}
    (h : ListedEntries folder p.dir.entries) (hbatch : ∀ e ∈ batch, e ∈ p.dir.entries)
    (hnodup : (batch.map (·.fileName)).Nodup) :
    Touched folder p.dir
      ((batch.map DirFileInfo.toFileInfo).foldl (purgeEntry deletes folder) p).dir := by
  induction batch generalizing p with
  | nil => exact Touched.refl _
  | cons e es ih =>
    rw [List.map_cons, List.foldl_cons]
    rw [List.map_cons, List.nodup_cons] at hnodup
    have he := hbatch e List.mem_cons_self
    have hfirst := purgeEntry_touched deletes h he
    have hstays : ∀ e' ∈ es, e' ∈ (purgeEntry deletes folder p e.toFileInfo).dir.entries := by
      intro e' he'
      have hin := hbatch e' (List.mem_cons_of_mem e he')
      by_cases hpurge : purgeable folder e = true
      · rw [purgeEntry_of_purgeable (h.listed e he) hpurge]
        split
        · refine List.mem_filter.mpr ⟨hin, decide_eq_true fun hname => hnodup.1 ?_⟩
          exact hname ▸ List.mem_map_of_mem he'
        · exact hin
      · obtain ⟨n, hcounted⟩ := purgeEntry_of_not_purgeable deletes (h.listed e he) hpurge p
        rw [hcounted]
        exact hin
    exact hfirst.trans (ih (h.sublist hfirst.sublist) hstays hnodup.2)

/-- The whole purge, however it ends. -/
theorem purgeRounds_touched (hpath : ListablePath folder) {n : Nat} {dir : DirState}
    (h : ListedEntries folder dir.entries) {td tf : Nat} {reply : PurgeReply}
    (hrun : purgeRounds deletes folder n dir td tf = some reply) :
    Touched folder dir reply.dir := by
  induction n generalizing dir td tf with
  | zero => cases hrun
  | succ n ih =>
    rw [purgeRounds_succ hpath h] at hrun
    have hround : Touched folder dir (roundState deletes folder dir td tf).dir := by
      have hsub := List.take_sublist fsDirPurgeBatch dir.entries
      exact foldl_purgeEntry_touched deletes (p := ⟨dir, 0, td, tf⟩) h
        (fun e he => hsub.subset he) (h.sublist hsub).nodup
    split at hrun
    · rw [Option.some.injEq] at hrun
      subst hrun
      exact Touched.refl _
    · dsimp only at hrun
      split at hrun
      · rw [Option.some.injEq] at hrun
        subst hrun
        exact hround
      · exact hround.trans (ih (h.sublist hround.sublist) hrun)

variable (deletes) in
/-- The call on a folder that is ready for it: it returns; the folder is empty and the count right
where every round deletes something, and the call is an error where not. -/
theorem WipeReady.returns {fuel : Nat} {flash : List Byte → DirState} {dirPath : List Byte}
    (h : WipeReady fuel flash dirPath) :
    ∃ reply, fileSystemDeleteAllFilesInDirectory deletes dirPath fuel (flash dirPath) =
        some reply ∧
      Touched (purgeFolder dirPath) (flash dirPath) reply.dir ∧
      (reply.result = .success ∨ reply.result = .error) ∧
      (reply.result = .success ↔
        Emptied deletes (purgeFolder dirPath) 0 (flash dirPath).entries) ∧
      (reply.result = .success → reply.dir.entries = [] ∧
        reply.outDeleted = (flash dirPath).entries.length ∧
        reply.outFailed = failures reply.dir.log) := by
  obtain ⟨reply, hrun⟩ := purgeRounds_returns deletes h.path.listable h.listed 0 0 h.fuel_lt
  have hfresh : (flash dirPath).log.length = 0 := List.length_eq_zero_iff.mpr h.fresh
  refine ⟨reply, (h.path.call_eq _ _).trans hrun,
    purgeRounds_touched h.path.listable h.listed hrun, ?_⟩
  cases purgeRounds_end h.path.listable h.listed hrun with
  | emptied _ hemptied hresult hentries hdeleted hfailed =>
    rw [hfresh] at hemptied
    rw [h.fresh] at hfailed
    refine ⟨Or.inl hresult, iff_of_true hresult hemptied, fun _ => ⟨hentries, ?_, ?_⟩⟩
    · rw [hdeleted, Nat.zero_add]
    · rw [Nat.zero_add] at hfailed
      exact hfailed
  | stalled after hstalled =>
    rw [hfresh] at hstalled
    refine ⟨Or.inr rfl, iff_of_false Result.noConfusion hstalled, fun hsuccess => ?_⟩
    exact Result.noConfusion hsuccess

end

end WalnutGateway
