import LamaSync.Daemon.SyncRuns
import Mathlib.Data.Set.Function

/-!
# The filters of the baseline

A run of rclone without `--resync` trusts the listing pair, so its filters should be those that the pair was written with.
The daemon compares the fingerprint of a run with the acknowledged one for that.

Two things are not compared.  A directory of the versions before has the hash of the Git-ignore rules alone; while these
rules are the same, the pair is adopted.  And a run without any filter has no fingerprint.
`filter_baseline_sound` says that in every history without filters that go away, and with old directories that are moved
away, adoption is the only way to a pair of other filters.
-/

namespace LamaSync

variable {stateDir : String}

def FilterSound (host : Host) : ExecutorEvent → Prop
  | .rclone command filter _ => isDry command = false → isResync command = false → filter = host.pairFilter
  | _ => True

instance (host : Host) : DecidablePred (FilterSound host)
  | .rclone command filter _ =>
    inferInstanceAs (Decidable (isDry command = false → isResync command = false → filter = host.pairFilter))
  | .hook .. | .copyto .. | .serveSftp _ | .probePeer _ | .diskFree _ | .keepLocalConflictCopy _ | .resticInit _
  | .resticBackup _ | .tar .. | .ghClone .. | .git _ | .uploadAppSnapshot _ | .reportResticSnapshot _ | .reportRetry _
  | .createConflicts _ | .resolveConflict _ | .makeLocalDir | .makeStateDir | .archiveState _ | .writeFingerprint _
  | .writeMarker _ | .removeMarker => isTrue trivial

def DryKeepsListings (host : Host) : ExecutorEvent → Prop
  | .rclone command _ after => isDry command = true → usesWorkdir command = true → listings after = listings host.files
  | _ => True

instance (host : Host) : DecidablePred (DryKeepsListings host)
  | .rclone command _ after => inferInstanceAs (Decidable
      (isDry command = true → usesWorkdir command = true → listings after = listings host.files))
  | .hook .. | .copyto .. | .serveSftp _ | .probePeer _ | .diskFree _ | .keepLocalConflictCopy _ | .resticInit _
  | .resticBackup _ | .tar .. | .ghClone .. | .git _ | .uploadAppSnapshot _ | .reportResticSnapshot _ | .reportRetry _
  | .createConflicts _ | .resolveConflict _ | .makeLocalDir | .makeStateDir | .archiveState _ | .writeFingerprint _
  | .writeMarker _ | .removeMarker => isTrue trivial

section History

variable (sha256 : String → String)

def BaselineSound (host : Host) (runs : List (SyncRun stateDir)) : Prop :=
  Trace.Always (fun host run => run.after sha256 host)
    (fun host run => Trace.Always Host.step FilterSound host (run.log sha256 host)) host runs

instance (host : Host) (runs : List (SyncRun stateDir)) : Decidable (BaselineSound sha256 host runs) :=
  inferInstanceAs (Decidable (Trace.Always (fun host run => run.after sha256 host)
    (fun host run => Trace.Always Host.step FilterSound host (run.log sha256 host)) host runs))

def SyncRun.realInputs (run : SyncRun stateDir) : Option RunInputs :=
  if run.opts.dryRun then none else run.inputs.toOption

/-- The directory has the Git-ignore hash of the run from a version before. -/
def Adopts (run : SyncRun stateDir) (host : Host) : Prop :=
  ∃ inputs ∈ run.realInputs, host.acknowledged.isSome ∧
    host.acknowledged = inputs.filters.legacyFingerprint sha256

def changeForgets (run : SyncRun stateDir) (host : Host) : Bool :=
  run.realInputs.all fun inputs =>
    let inspection := inspectBisyncBaseline host.files false
    !(filterVerdict sha256 inputs host).any FingerprintVerdict.changed ||
      if inspection.present || inspection.error then run.env.archive ≠ .renameFails else host.acknowledged = none

def StartsSound (host : Host) (runs : List (SyncRun stateDir)) : Prop :=
  ∀ run ∈ runs, ∀ inputs ∈ run.realInputs,
    match inputs.filters.fingerprint sha256 with
    | some live => host.acknowledged = some live → host.pairFilter = inputs.filters.filterFrom
    | none => host.pairFilter = none

def FiltersStay (earlier later : SyncRun stateDir) : Prop :=
  ∀ inputs ∈ earlier.realInputs, inputs.filters.filterFrom.isSome →
    ∀ inputs' ∈ later.realInputs, (inputs'.filters.fingerprint sha256).isSome

def hashedTexts (runs : List (SyncRun stateDir)) : Set String :=
  {text | ∃ run ∈ runs, ∃ inputs ∈ run.realInputs, text = inputs.filters.fingerprintText ∨
    ∃ gf ∈ inputs.filters.gitignoreFilter, text = joinLines gf.rules.1}

end History

section OneRun

variable {sha256 : String → String} {run : SyncRun stateDir} {host : Host} {inputs : RunInputs}

private theorem fb_realInputs (h : inputs ∈ run.realInputs) : run.opts.dryRun = false ∧ run.inputs = .ok inputs := by
  unfold SyncRun.realInputs at h
  split at h
  · cases h
  rename_i hreal
  refine ⟨Bool.not_eq_true _ ▸ hreal, ?_⟩
  cases hins : run.inputs with
  | error stop =>
    rw [hins] at h
    cases h
  | ok found =>
    rw [hins] at h
    exact congrArg Except.ok (Option.some.inj h)

private theorem fb_universe (h : inputs ∈ run.realInputs) :
    ∃ respect snapshot patterns, inputs.filters = filterUniverse respect snapshot patterns := by
  have hins := (fb_realInputs h).2
  unfold SyncRun.inputs preparedInputs at hins
  split at hins
  · cases hins
  split at hins
  · cases hins
  split at hins
  · cases hins
  · obtain rfl := Except.ok.inj hins
    exact ⟨_, _, _, rfl⟩
  · cases hins

private theorem fb_unchanged (h : (filterVerdict sha256 inputs host).any FingerprintVerdict.changed = false)
    {live : String} (hlive : inputs.filters.fingerprint sha256 = some live) :
    host.acknowledged = some live ∨
      (host.acknowledged.isSome ∧ host.acknowledged = inputs.filters.legacyFingerprint sha256) := by
  unfold filterVerdict at h
  rw [hlive, Option.map_some, Option.any_some] at h
  exact reconcileFingerprint_changed.1 h

private theorem fb_sound (hins : inputs ∈ run.realInputs) (hst : StartsSound sha256 host [run])
    (h : (filterVerdict sha256 inputs host).any FingerprintVerdict.changed = false) :
    inputs.filters.filterFrom = host.pairFilter ∨ Adopts sha256 run host := by
  have hmine := hst run (List.mem_singleton.2 rfl) inputs hins
  cases hlive : inputs.filters.fingerprint sha256 with
  | some live =>
    rw [hlive] at hmine
    rcases fb_unchanged h hlive with hsame | hle
    · exact .inl (hmine hsame).symm
    · exact .inr ⟨inputs, hins, hle⟩
  | none =>
    rw [hlive] at hmine
    obtain ⟨respect, snapshot, patterns, huniv⟩ := fb_universe hins
    rw [huniv] at hlive ⊢
    exact .inl ((filterFrom_of_fingerprint_none hlive).trans hmine.symm)

structure Settled (sha256 : String → String) (run : SyncRun stateDir) (inputs : RunInputs) (host host' : Host) : Prop where
  pairFilter : host'.pairFilter = host.pairFilter ∨ host'.pairFilter = inputs.filters.filterFrom
  acknowledged : host'.acknowledged = none ∨
    (host'.acknowledged = host.acknowledged ∧ (host'.pairFilter = host.pairFilter ∨ Adopts sha256 run host)) ∨
    (host'.acknowledged = inputs.filters.fingerprint sha256 ∧ host'.pairFilter = inputs.filters.filterFrom)

private theorem fb_settled_refl : Settled sha256 run inputs host host := ⟨.inl rfl, .inr (.inl ⟨rfl, .inl rfl⟩)⟩

variable {planned h : Host} {e : ExecutorEvent}

private theorem fb_planned_changed (hins : inputs ∈ run.realInputs)
    (hforg : changeForgets sha256 run host = true)
    (hchg : (filterVerdict sha256 inputs host).any FingerprintVerdict.changed = true)
    (hplan : Host.Planned (movesBefore run.opts run.env (inspectBisyncBaseline host.files false)
      ((filterVerdict sha256 inputs host).any FingerprintVerdict.changed)) host planned) :
    planned.acknowledged = none ∧ planned.hasPair = false := by
  have hthis : (if (inspectBisyncBaseline host.files false).present || (inspectBisyncBaseline host.files false).error then
      decide (run.env.archive ≠ .renameFails) else decide (host.acknowledged = none)) = true := by
    unfold changeForgets at hforg
    rw [Option.mem_def.1 hins, Option.all_some, hchg] at hforg
    exact hforg
  by_cases hold : ((inspectBisyncBaseline host.files false).present ||
      (inspectBisyncBaseline host.files false).error) = true
  · rw [if_pos hold, decide_eq_true_iff] at hthis
    have hmv : movesBefore run.opts run.env (inspectBisyncBaseline host.files false)
        ((filterVerdict sha256 inputs host).any FingerprintVerdict.changed) = true := by
      unfold movesBefore archivesBefore
      rw [hchg, Bool.or_true, Bool.true_and, hold, decide_eq_true hthis, Bool.true_and]
    have hem := hplan.files
    have hnone := hplan.acknowledged
    rw [hmv] at hem hnone
    refine ⟨hnone, ?_⟩
    unfold Host.hasPair
    rw [hem]
    exact congrArg BisyncBaselineInspection.present (inspect_nil false)
  · rw [if_neg hold, decide_eq_true_iff] at hthis
    have hmv : movesBefore run.opts run.env (inspectBisyncBaseline host.files false)
        ((filterVerdict sha256 inputs host).any FingerprintVerdict.changed) = false := by
      unfold movesBefore archivesBefore
      rw [Bool.not_eq_true] at hold
      rw [hold, Bool.and_false, Bool.false_and]
    have hf := hplan.files
    have hnone := hplan.acknowledged
    rw [hmv] at hf hnone
    refine ⟨hnone.trans hthis, ?_⟩
    unfold Host.hasPair
    rw [hf]
    rw [Bool.not_eq_true, Bool.or_eq_false_iff] at hold
    exact hold.1

private theorem fb_worn (hins : inputs ∈ run.realInputs) (hst : StartsSound sha256 host [run])
    (hforg : changeForgets sha256 run host = true)
    (hplan : Host.Planned (movesBefore run.opts run.env (inspectBisyncBaseline host.files false)
      ((filterVerdict sha256 inputs host).any FingerprintVerdict.changed)) host planned)
    (hworn : Host.Worn inputs.filters.filterFrom planned h) : Settled sha256 run inputs host h := by
  have hpair : h.pairFilter = host.pairFilter ∨ h.pairFilter = inputs.filters.filterFrom :=
    hplan.pairFilter ▸ hworn.pairFilter
  refine ⟨hpair, ?_⟩
  rcases hworn.acknowledged with hkept | hfo
  · cases hchg : (filterVerdict sha256 inputs host).any FingerprintVerdict.changed with
    | true =>
      have hnone := (fb_planned_changed hins hforg hchg hplan).1
      exact .inl (hkept.trans hnone)
    | false =>
      rw [hplan.acknowledged] at hkept
      split at hkept
      · exact .inl hkept
      refine .inr (.inl ⟨hkept, ?_⟩)
      rcases fb_sound hins hst hchg with hsame | had
      · rw [hsame, or_self] at hpair
        exact .inl hpair
      · exact .inr had
  · exact .inl hfo

private theorem fb_launch (hins : inputs ∈ run.realInputs)
    (hst : StartsSound sha256 host [run]) (hpair : planned.pairFilter = host.pairFilter)
    (hworn : Host.Worn inputs.filters.filterFrom planned h) {dry : Bool}
    (hrest : RestEvent inputs.filters.filterFrom dry (isResync (realPlan run.opts run.env inputs
      (inspectBisyncBaseline host.files false) (filterVerdict sha256 inputs host)).command) e) :
    Adopts sha256 run host ∨ FilterSound h e := by
  cases e with
  | rclone command filter after =>
    obtain ⟨rfl, -, hflag⟩ := hrest
    by_cases hplan : isResync (realPlan run.opts run.env inputs (inspectBisyncBaseline host.files false)
        (filterVerdict sha256 inputs host)).command = true
    · refine .inr fun _ hno => ?_
      rw [hflag hplan] at hno
      cases hno
    rw [isResync_realPlan, Option.isSome_iff_ne_none, not_not] at hplan
    rcases fb_sound hins hst (bisyncResyncPlan_none.1 hplan).2.2 with hsame | had
    · refine .inr fun _ _ => ?_
      rcases hworn.pairFilter with hkept | hmine
      · rw [hkept, hpair, hsame]
      · exact hmine.symm
    · exact .inl had
  | _ => exact .inr trivial

private theorem fb_acknowledged {result : CommandResult} (hins : inputs ∈ run.realInputs)
    (hforg : changeForgets sha256 run host = true)
    (hplan : Host.Planned (movesBefore run.opts run.env (inspectBisyncBaseline host.files false)
      ((filterVerdict sha256 inputs host).any FingerprintVerdict.changed)) host planned)
    (hworn : Host.Worn inputs.filters.filterFrom planned h)
    (hacks : acknowledges run.opts run.env (realPlan run.opts run.env inputs (inspectBisyncBaseline host.files false)
      (filterVerdict sha256 inputs host)) result h = true) :
    (inputs.filters.fingerprint sha256).isSome ∧ h.pairFilter = inputs.filters.filterFrom := by
  unfold acknowledges shouldAcknowledgeFilter at hacks
  rw [baselineEstablished_realPlan run.isSync (fb_realInputs hins).1, Bool.and_eq_true, Bool.and_eq_true,
    Bool.and_eq_true] at hacks
  obtain ⟨⟨⟨hchg, -⟩, hrd⟩, -⟩ := hacks
  refine ⟨fingerprint_of_changed hchg, ?_⟩
  have hno := (fb_planned_changed hins hforg hchg hplan).2
  refine hworn.hasPair (fun hth => ?_) (present_of_ready hrd).1
  rw [hno] at hth
  cases hth

private theorem fb_realRun (hdig : ∀ text, readTrimmed (some (sha256 text)) = some (sha256 text))
    (hins : inputs ∈ run.realInputs) (hst : StartsSound sha256 host [run])
    (hforg : changeForgets sha256 run host = true) :
    Script.wp Host.step (fun h e => Adopts sha256 run host ∨ FilterSound h e)
      (fun _ h => Settled sha256 run inputs host h) (fun _ h => Settled sha256 run inputs host h)
      (run.script sha256) host := by
  have hq : ∀ (h : Host) (e : ExecutorEvent), launched e = none → Adopts sha256 run host ∨ FilterSound h e := by
    intro h e he
    cases e with
    | rclone command filter after => cases he
    | _ => exact .inr trivial
  obtain ⟨hreal, hok⟩ := fb_realInputs hins
  refine wp_syncRun (fun h => hq h _ rfl) ?_ ?_
  · intro stop hstop
    rw [hok] at hstop
    cases hstop
  intro found hf
  obtain rfl := Except.ok.inj (hok.symm.trans hf)
  unfold runSync
  rw [Script.wp_bind]
  refine wp_planSync_real hq hreal fb_settled_refl ?_
  intro planned hplan
  refine wp_runPlanned ?_ ?_ ?_
  · exact fun h e hworn hrest => fb_launch hins hst hplan.pairFilter hworn hrest
  · exact fun _ h hworn => fb_worn hins hst hforg hplan hworn
  intro attempts ended h hworn _ _
  have hbef := fb_worn hins hst hforg hplan hworn
  refine wp_finishRun hq ?_ ?_
  · intro fingerprint hpend
    rw [pending_realPlan] at hpend
    exact readTrimmed_fingerprint hdig hpend
  intro report h' _ _ hpair hack
  refine ⟨hpair ▸ hbef.pairFilter, ?_⟩
  rw [hpair]
  split at hack
  · rename_i hacks
    obtain ⟨hsome, hfilt⟩ := fb_acknowledged hins hforg hplan hworn hacks
    refine .inr (.inr ⟨?_, hfilt⟩)
    rw [hack, pending_realPlan]
    exact Option.or_of_isSome hsome
  · rw [hack]
    exact hbef.acknowledged

private theorem fb_otherRun (hnone : run.realInputs = none) :
    Script.wp Host.step (fun _ e => ∃ filter, RestEvent filter true false e) (fun _ _ => True) (fun _ _ => True)
      (run.script sha256) host := by
  refine wp_syncRun (fun _ => ⟨none, trivial⟩) (fun _ _ => trivial) ?_
  intro inputs hins
  have hdry : run.opts.dryRun = true := by
    unfold SyncRun.realInputs at hnone
    rw [hins] at hnone
    split at hnone
    · assumption
    · cases hnone
  have hrest : ∀ {plan : RunPlan} {h : Host}, isDry plan.command = true → plan.pendingFilterFingerprint = none →
      Script.wp Host.step (fun _ e => ∃ filter, RestEvent filter true false e) (fun _ _ => True) (fun _ _ => True)
        (runPlanned sha256 run.opts run.env inputs plan) h := by
    intro plan h hplan hpend
    refine wp_runPlanned ?_ (fun _ _ _ => trivial) ?_
    · intro h' e _ he
      refine ⟨inputs.filters.filterFrom, ?_⟩
      rw [hplan] at he
      cases e with
      | rclone command filter after => exact ⟨he.1, he.2.1, fun hno => (Bool.false_ne_true hno).elim⟩
      | writeFingerprint _ | writeMarker _ | removeMarker => cases he
      | _ => trivial
    · exact fun _ _ _ _ _ _ => wp_finishRun_dry hpend (fun _ => hdry) fun _ => trivial
  unfold runSync planSync
  rw [Script.wp_bind, hdry, if_pos rfl]
  unfold planDryRun
  cases run.opts.bisync with
  | none => exact hrest isDry_previewPlan rfl
  | some control =>
    unfold makeStateDir
    rw [Script.wp_bind, Script.wp_bind, Script.wp_leaveIf]
    refine ⟨fun _ => trivial, fun _ => ?_⟩
    rw [Script.wp_act]
    refine ⟨⟨none, trivial⟩, ?_⟩
    rw [Script.wp_bind, Script.wp_get]
    exact hrest (isDry_dryPlan _) rfl

private theorem fb_dryEvent (hrest : ∃ filter, RestEvent filter true false e)
    (hkp : DryKeepsListings h e) : FilterSound h e ∧ (h.step e).pairFilter = h.pairFilter := by
  obtain ⟨filter, hrest⟩ := hrest
  cases e with
  | rclone command launched after =>
    obtain ⟨-, hdry, -⟩ := hrest
    constructor
    · intro hreal
      rw [hdry] at hreal
      cases hreal
    unfold Host.step
    dsimp only
    split
    · rename_i hwork
      rw [if_pos (hkp hdry hwork)]
    · rfl
  | writeFingerprint _ | writeMarker _ | removeMarker => cases hrest
  | _ => exact ⟨trivial, rfl⟩

private theorem fb_otherRun_after (hnone : run.realInputs = none)
    (hkp : Trace.Always Host.step DryKeepsListings host (run.log sha256 host)) :
    Trace.Always Host.step FilterSound host (run.log sha256 host) ∧
      (run.after sha256 host).pairFilter = host.pairFilter ∧
      ((run.after sha256 host).acknowledged = host.acknowledged ∨ (run.after sha256 host).acknowledged = none) := by
  have hevs : Trace.Always Host.step (fun _ e => ∃ filter, RestEvent filter true false e) host (run.log sha256 host) :=
    Script.wp_events.1 (fb_otherRun hnone)
  have hboth := hevs.and hkp
  refine ⟨hboth.mono fun h e he => (fb_dryEvent he.1 he.2).1, ?_⟩
  refine hboth.invariant (I := fun h => h.pairFilter = host.pairFilter ∧
    (h.acknowledged = host.acknowledged ∨ h.acknowledged = none)) ⟨rfl, .inl rfl⟩ ?_
  rintro h e ⟨hpair, hack⟩ ⟨⟨filter, hrest⟩, hdry⟩
  refine ⟨(fb_dryEvent ⟨filter, hrest⟩ hdry).2.trans hpair, ?_⟩
  rcases (hrest.worn h).acknowledged with hkept | hfo
  · rw [hkept]
    exact hack
  · exact .inr hfo

end OneRun

section Histories

variable {sha256 : String → String} {host : Host} {run : SyncRun stateDir} {rest : List (SyncRun stateDir)}

private theorem fb_startsSound_settled {inputs : RunInputs} {host' : Host}
    (hinj : Set.InjOn sha256 (hashedTexts (run :: rest))) (hins : inputs ∈ run.realInputs)
    (hst : StartsSound sha256 host (run :: rest)) (hstay : ∀ later ∈ rest, FiltersStay sha256 run later)
    (hsett : Settled sha256 run inputs host host') : StartsSound sha256 host' rest := by
  intro later hla inputs' hins'
  have hbef := hst later (.tail _ hla) inputs' hins'
  have htext : inputs'.filters.fingerprintText ∈ hashedTexts (run :: rest) :=
    ⟨later, .tail _ hla, inputs', hins', .inl rfl⟩
  cases hlive : inputs'.filters.fingerprint sha256 with
  | none =>
    rw [hlive] at hbef
    rcases hsett.pairFilter with hkept | hmine
    · exact hkept.trans hbef
    -- a filter file would have to stay
    have hno : inputs.filters.filterFrom = none := by
      rw [← Option.not_isSome_iff_eq_none]
      intro hfile
      have hsome := hstay later hla inputs hins hfile inputs' hins'
      rw [hlive] at hsome
      cases hsome
    exact hmine.trans hno
  | some live =>
    rw [hlive] at hbef
    dsimp only at hbef ⊢
    intro hack
    have hhash : live = sha256 inputs'.filters.fingerprintText := by
      unfold FilterUniverse.fingerprint at hlive
      split at hlive
      · exact (Option.some.inj hlive).symm
      · cases hlive
    rcases hsett.acknowledged with hnone | ⟨hkept, hpair⟩ | ⟨hmine, hpair⟩
    · rw [hnone] at hack
      cases hack
    · rw [hkept] at hack
      rcases hpair with hpair | hado
      · exact hpair.trans (hbef hack)
      -- a hash of Git-ignore rules is no unified fingerprint
      obtain ⟨adopted, had, -, hle⟩ := hado
      rw [hack] at hle
      unfold FilterUniverse.legacyFingerprint at hle
      obtain ⟨gf, hgf, hru⟩ := Option.map_eq_some_iff.1 hle.symm
      have hsame := hinj ⟨run, .head _, adopted, had, .inr ⟨gf, hgf, rfl⟩⟩ htext
        (hru.trans hhash)
      obtain ⟨respect, snapshot, patterns, huniv⟩ := fb_universe hins'
      rw [huniv] at hsame
      exact (legacyText_ne gf.rules hsame).elim
    · rw [hmine] at hack
      have hhash' : sha256 inputs.filters.fingerprintText = sha256 inputs'.filters.fingerprintText := by
        unfold FilterUniverse.fingerprint at hack
        split at hack
        · exact (Option.some.inj hack).trans hhash
        · cases hack
      have hsame := hinj ⟨run, .head _, inputs, hins, .inl rfl⟩ htext hhash'
      obtain ⟨respect, snapshot, patterns, huniv⟩ := fb_universe hins
      obtain ⟨respect', snapshot', patterns', huniv'⟩ := fb_universe hins'
      rw [huniv, huniv'] at hsame
      rw [hpair, huniv, huniv']
      exact filterFrom_of_fingerprintText hsame

private theorem fb_startsSound_other {host' : Host} (hst : StartsSound sha256 host (run :: rest))
    (hpair : host'.pairFilter = host.pairFilter)
    (hack : host'.acknowledged = host.acknowledged ∨ host'.acknowledged = none) :
    StartsSound sha256 host' rest := by
  intro later hla inputs hins
  have hbef := hst later (.tail _ hla) inputs hins
  cases hlive : inputs.filters.fingerprint sha256 with
  | none =>
    rw [hlive] at hbef
    exact hpair.trans hbef
  | some live =>
    rw [hlive] at hbef
    intro hsame
    rcases hack with hkept | hnone
    · exact hpair.trans (hbef (hkept.symm.trans hsame))
    · rw [hnone] at hsame
      cases hsame

private theorem fb_run (hdig : ∀ text, readTrimmed (some (sha256 text)) = some (sha256 text))
    (hinj : Set.InjOn sha256 (hashedTexts (run :: rest))) (hst : StartsSound sha256 host (run :: rest))
    (hstay : ∀ later ∈ rest, FiltersStay sha256 run later) (hforg : changeForgets sha256 run host = true)
    (hkp : Trace.Always Host.step DryKeepsListings host (run.log sha256 host)) :
    (Adopts sha256 run host ∨ Trace.Always Host.step FilterSound host (run.log sha256 host)) ∧
      StartsSound sha256 (run.after sha256 host) rest := by
  cases hins : run.realInputs with
  | none =>
    obtain ⟨hsd, hpair, hack⟩ := fb_otherRun_after hins hkp
    exact ⟨.inr hsd, fb_startsSound_other hst hpair hack⟩
  | some inputs =>
    have hfi : StartsSound sha256 host [run] := by
      intro first hmem
      obtain rfl := List.mem_singleton.1 hmem
      exact hst first (.head _)
    have hrun := Script.wp_iff.1 (fb_realRun hdig hins hfi hforg)
    constructor
    · by_cases had : Adopts sha256 run host
      · exact .inl had
      · exact .inr (hrun.1.mono fun h e he => he.resolve_left had)
    apply fb_startsSound_settled hinj hins hst hstay
    have hends := hrun.2
    unfold SyncRun.after
    cases hres : (run.script sha256).result Host.step host with
    | ok report | error stop =>
      rw [hres] at hends
      exact hends

/-- Filter soundness of the baseline.  Filters do not go away, every run that finds its filters changed starts rclone without
an acknowledged fingerprint, and dry runs of rclone leave the listings as they are.  Then every real run without `--resync`
has the filters that the pair was written with, unless it adopts a directory that has its Git-ignore hash from a version
before. -/
theorem filter_baseline_sound (hdigest : ∀ text, readTrimmed (some (sha256 text)) = some (sha256 text))
    (runs : List (SyncRun stateDir)) (host : Host) (hinj : Set.InjOn sha256 (hashedTexts runs))
    (hstart : StartsSound sha256 host runs) (hstay : runs.Pairwise (FiltersStay sha256))
    (hruns : Trace.Always (fun host run => run.after sha256 host)
      (fun host run => changeForgets sha256 run host = true ∧
        Trace.Always Host.step DryKeepsListings host (run.log sha256 host)) host runs) :
    Trace.Always (fun host run => run.after sha256 host)
      (fun host run => Adopts sha256 run host ∨ Trace.Always Host.step FilterSound host (run.log sha256 host)) host
      runs := by
  induction runs generalizing host with
  | nil => trivial
  | cons run rest ih =>
    obtain ⟨⟨hforg, hkp⟩, hla⟩ := hruns
    obtain ⟨hstayFirst, hstayRest⟩ := List.pairwise_cons.1 hstay
    obtain ⟨hsd, hnext⟩ := fb_run hdigest hinj hstart hstayFirst hforg hkp
    refine ⟨hsd, ih _ (hinj.mono ?_) hnext hstayRest hla⟩
    rintro text ⟨later, hmem, hins⟩
    exact ⟨later, .tail _ hmem, hins⟩

end Histories

def someDigests (text : String) : String :=
  if text = "\x00- *.tmp" then "f766538ff53d46485d893d33d2aa78523e4429ecb1eeac7f74bb792f32bc7667"
  else if text = "- /dist" then "890742012522783fe8d4dba5d6fe6ecf77e6a7478a3f9af8c9e0cb01beb92fc3"
  else if text = "- /dist\x00- *.tmp" then "d0109c96075d0b871398c786b45498673c42bc1dbef6c880e5f751f6a4e575c0"
  else "e3b0c44298fc1c149afbf4c8996fb92427ae41e4649b934ca495991b7852b855"

def docsPair (mtimeMs : Int) : List ListingFile := [⟨"docs.path1.lst", "# v1\n", mtimeMs⟩, ⟨"docs.path2.lst", "# v1\n", mtimeMs⟩]

def docsOptions (control : Option BisyncRunControl) : ExecuteOptions where
  assignment := {
    id := "a", folderId := "f", hostId := "h", localPath := "/home/docs", ignorePath := some ".lamasyncignore" }
  folder := { id := "f", name := "docs", type := .sync }
  hostId := "h"
  bisync := control

def docsSurroundings (patterns : String) (mtimeMs : Int) : Surroundings where
  filterFile := fun _ _ => .content patterns
  rclone := fun _ => some { result := .exited 0 "", files := docsPair mtimeMs }

/-- A run of a folder with the given filter file, in which rclone succeeds and writes the pair. -/
def docsRun (patterns : String) (mtimeMs : Int) (control : Option BisyncRunControl) :
    SyncRun (bisyncStateDir "f" "/home") where
  opts := docsOptions control
  env := docsSurroundings patterns mtimeMs
  isSync := rfl
  inDir := rfl

def docsGitRun (patterns : String) (mtimeMs : Int) : SyncRun (bisyncStateDir "f" "/home") :=
  let run := docsRun patterns mtimeMs none
  { run with
    opts := { run.opts with assignment := { run.opts.assignment with respectGitignore := true } }
    env := { run.env with snapshot := ⟨["- /dist"], by decide⟩ } }

/-- Two runs with the same filters: the first acknowledges them, and the second is an ordinary one. -/
def docsHistory : List (SyncRun (bisyncStateDir "f" "/home")) :=
  [docsRun "- *.tmp\n" 1 none, docsRun "- *.tmp\n" 2 none]

private theorem fb_docsInputs {run : SyncRun (bisyncStateDir "f" "/home")} (hrun : run ∈ docsHistory) {inputs : RunInputs}
    (h : inputs ∈ run.realInputs) :
    (inputs.filters.fingerprint someDigests).isSome ∧ inputs.filters.fingerprintText = "\x00- *.tmp" ∧
      inputs.filters.gitignoreFilter.isNone := by
  have hall : ∀ run ∈ docsHistory, run.realInputs.all (fun inputs => (inputs.filters.fingerprint someDigests).isSome &&
      inputs.filters.fingerprintText = "\x00- *.tmp" && inputs.filters.gitignoreFilter.isNone) = true := by
    decide +kernel
  have hthis := hall run hrun
  rw [Option.mem_def.1 h, Option.all_some, Bool.and_eq_true, Bool.and_eq_true, decide_eq_true_iff] at hthis
  exact ⟨hthis.1.1, hthis.1.2, hthis.2⟩

theorem someDigests_trimmed (text : String) : readTrimmed (some (someDigests text)) = some (someDigests text) := by
  unfold someDigests
  split
  · decide +kernel
  split
  · decide +kernel
  split
  · decide +kernel
  · decide +kernel

/-- The history of the two runs, from an empty directory. -/
theorem docsHistory_sound :
    Trace.Always (fun host run => run.after someDigests host)
      (fun host run => Adopts someDigests run host ∨
        Trace.Always Host.step FilterSound host (run.log someDigests host)) {} docsHistory := by
  refine filter_baseline_sound someDigests_trimmed docsHistory {} ?_ ?_ ?_ (by decide +kernel)
  · -- only one text is hashed
    have htext : ∀ text ∈ hashedTexts docsHistory, text = "\x00- *.tmp" := by
      rintro text ⟨run, hrun, inputs, hins, htext⟩
      obtain ⟨-, hthis, hno⟩ := fb_docsInputs hrun hins
      rcases htext with rfl | ⟨gf, hgf, -⟩
      · exact hthis
      · rw [Option.mem_def.1 hgf] at hno
        cases hno
    intro text h text' h' _
    rw [htext text h, htext text' h']
  · intro run _ inputs _
    split
    · intro hack
      have hnone : Host.acknowledged {} = none := by decide
      rw [hnone] at hack
      cases hack
    · rfl
  · refine List.pairwise_cons.2 ⟨?_, List.pairwise_singleton _ _⟩
    intro later hla inputs _ _ inputs' hins'
    exact (fb_docsInputs (.tail _ hla) hins').1

/-- The old directory cannot be moved away, and rclone writes the pair and fails. -/
def docsStuckRun (patterns : String) (mtimeMs : Int) : SyncRun (bisyncStateDir "f" "/home") :=
  let run := docsRun patterns mtimeMs none
  { run with
    env := { run.env with
      archive := .renameFails
      rclone := fun _ => some { result := .exited 1 "", files := docsPair mtimeMs } } }

/-- A pair of other filters that a run without `--resync` trusts: that of a version before, whose Git-ignore rules are the same
while its patterns were not; that of a run with filters, when they are gone; and that of a changed run which left the
fingerprint of the run before it. -/
theorem old_pairs_trusted :
    ¬ BaselineSound someDigests
        { stateDir := some { files := docsPair 0, legacyFilterHash := some (someDigests "- /dist") }
          pairFilter := some "- /dist\n- *.log\n" }
        [docsGitRun "- *.tmp\n" 1] ∧
      ¬ BaselineSound someDigests {} [docsRun "- *.tmp\n" 1 none, docsRun "" 2 none] ∧
      ¬ BaselineSound someDigests {} [docsRun "- *.tmp\n" 1 none, docsStuckRun "- *.log\n" 2, docsRun "- *.tmp\n" 3 none] := by
  refine ⟨?_, ?_, ?_⟩
  · decide +kernel
  · decide +kernel
  · decide +kernel

end LamaSync
