import LamaSync.Core.InitDb

/-!
# When the legacy configuration has been converted

The conversion looks at profiles and manifests one after the other.  For each of them it finds everything there and
goes on, or it adds a row, or it ends with an exception (`Step`); rows are never removed, so a conversion that left the
tables alone found everything there (`convertLegacyAppConfig_step`).
-/

namespace LamaSync

open Relational

variable {env : InitEnv} {c c' c'' : Conversion} {db : SqlDb}

def convertedRows (db : SqlDb) : Nat :=
  (db.rows "application_templates").length + (db.rows "application_protections").length

/-- The second database has more rows in the two tables, and is the first otherwise. -/
structure Extends (db db' : SqlDb) : Prop where
  tables : db'.tables = db.tables
  indexes : db'.indexes = db.indexes
  rows : ∀ t, t ≠ "application_templates" → t ≠ "application_protections" → db'.rows t = db.rows t
  masked : db.Masked → db'.Masked
  size : convertedRows db ≤ convertedRows db'

/-- The part of the conversion that asks for `P`: it finds `P` and does nothing, or it adds a row, or it fails. -/
structure Conversion.Step (P : Prop) (c c' : Conversion) : Prop where
  only : Extends c.db c'.db
  cases : c'.ok = true → c' = c ∧ P ∨ convertedRows c.db < convertedRows c'.db
  found : P → c' = c

theorem Extends.refl (db : SqlDb) : Extends db db := ⟨rfl, rfl, fun _ _ _ => rfl, id, Nat.le_refl _⟩

theorem Extends.trans {db db' db'' : SqlDb} (h : Extends db db') (h' : Extends db' db'') : Extends db db'' where
  tables := h'.tables.trans h.tables
  indexes := h'.indexes.trans h.indexes
  rows := fun t ht hp => (h'.rows t ht hp).trans (h.rows t ht hp)
  masked := fun hmask => h'.masked (h.masked hmask)
  size := Nat.le_trans h.size h'.size

private theorem lc_insert (c : Conversion) {t : String}
    (ht : t = "application_templates" ∨ t = "application_protections") (values : List (String × Option SqlValue)) :
    Extends c.db (c.run (.insert t values)).db ∧
      ((c.run (.insert t values)).ok = true → convertedRows c.db < convertedRows (c.run (.insert t values)).db) := by
  cases hs : (Statement.insert t values).exec c.db with
  | none =>
    simp only [Conversion.run, hs]
    exact ⟨.refl _, fun hok => by cases hok⟩
  | some db' =>
    have hmask : c.db.Masked → db'.Masked := fun h => h.exec hs
    simp only [Conversion.run, hs]
    simp only [Statement.exec] at hs
    split at hs
    · cases hs
    split at hs
    swap
    · cases hs
    obtain rfl := Db.tryRows_eq hs
    have hgw : ∀ row, convertedRows c.db < convertedRows (c.db.setRows t (c.db.rows t ++ [row])) := by
      intro row
      rcases ht with rfl | rfl <;> simp [convertedRows, Db.setRows]
    refine ⟨⟨rfl, rfl, fun t' hte hprot => ?_, hmask, (hgw _).le⟩, fun _ => hgw _⟩
    refine Function.update_of_ne ?_ ..
    rintro rfl
    exact ht.elim hte hprot

/-- The profile can be read, and its template is there. -/
def ProfileConverted (env : InitEnv) (db : SqlDb) (p : SqlRow) : Prop :=
  (∃ spec, profileSpec env ((sqlText (p "paths")).getD "") = some spec) ∧
    ((db.rows "application_templates").any fun t => sqlEq (t "id") (p "id")) = true

def HostProtected (db : SqlDb) (m host : SqlRow) : Prop :=
  ∃ t, findTemplate db m = some t ∧ protectionExists db (host "id") (t "id") = true

def ManifestConverted (db : SqlDb) (m : SqlRow) : Prop :=
  ∀ host, (db.rows "hosts").find? (fun h => sqlEq (h "id") (m "host_id")) = some host → HostProtected db m host

def GlobalConverted (db : SqlDb) (work : SqlRow × SqlRow) : Prop :=
  alreadyHostSpecific db work.1 work.2 = false → HostProtected db work.1 work.2

theorem convertProfile_step (p : SqlRow) :
    Conversion.Step (ProfileConverted env c.db p) c (convertProfile env c p) := by
  unfold convertProfile ProfileConverted
  cases hspec : profileSpec env ((sqlText (p "paths")).getD "") with
  | none => exact ⟨.refl _, nofun, fun h => nomatch h.1⟩
  | some spec =>
    by_cases hany : ((c.db.rows "application_templates").any fun t => sqlEq (t "id") (p "id")) = true
    · simp only [hany, if_true]
      exact ⟨.refl _, fun _ => .inl ⟨rfl, ⟨spec, rfl⟩, trivial⟩, fun _ => rfl⟩
    · simp only [if_neg hany]
      exact ⟨(lc_insert c (.inl rfl) _).1, fun hok => .inr ((lc_insert c (.inl rfl) _).2 hok), fun h => absurd h.2 hany⟩

private theorem lc_template (env : InitEnv) (c : Conversion) (m : SqlRow) :
    (∃ t, findTemplate c.db m = some t ∧ templateForManifest env c m = (c, t "id", t "revision", t "name")) ∨
      findTemplate c.db m = none ∧ Extends c.db (templateForManifest env c m).1.db ∧
        ((templateForManifest env c m).1.ok = true →
          convertedRows c.db < convertedRows (templateForManifest env c m).1.db) := by
  unfold templateForManifest
  cases ht : findTemplate c.db m with
  | some t => exact .inl ⟨t, rfl, rfl⟩
  | none => exact .inr ⟨rfl, lc_insert { c with drawn := c.drawn + 1 } (.inl rfl) _⟩

theorem protectHost_step (env : InitEnv) (m host : SqlRow) (hok : c.ok = true) :
    Conversion.Step (HostProtected c.db m host) c (protectHost env c m host) := by
  have hpr := fun c₁ : Conversion =>
    lc_insert { c₁ with drawn := c₁.drawn + 1 } (t := "application_protections") (.inr rfl)
  unfold protectHost
  rcases lc_template env c m with ⟨t, ht, heq⟩ | ⟨hnone, hext, hgw⟩
  · rw [heq]
    by_cases hex : protectionExists c.db (host "id") (t "id") = true
    · simp only [hok, hex, Bool.not_true, Bool.false_or, if_true]
      exact ⟨.refl _, fun _ => .inl ⟨rfl, t, ht, hex⟩, fun _ => rfl⟩
    have hcond : (!c.ok || protectionExists c.db (host "id") (t "id")) = false := by simp [hok, hex]
    simp only [hcond, Bool.false_eq_true, if_false]
    refine ⟨(hpr c _).1, fun hok' => .inr ((hpr c _).2 hok'), ?_⟩
    rintro ⟨t', ht', hex'⟩
    obtain rfl := Option.mem_unique ht ht'
    exact absurd hex' hex
  · have hno : ¬HostProtected c.db m host := fun ⟨t, ht, _⟩ => nomatch hnone.symm.trans ht
    rcases hmade : templateForManifest env c m with ⟨c₁, id, revision, name⟩
    simp only [hmade] at hext hgw
    simp only
    split
    · exact ⟨hext, fun hok' => .inr (hgw hok'), fun h => absurd h hno⟩
    rename_i hcond
    have hok₁ : c₁.ok = true := by
      simp only [Bool.or_eq_true, Bool.not_eq_true', not_or, Bool.not_eq_false] at hcond
      exact hcond.1
    exact ⟨hext.trans (hpr c₁ _).1,
      fun _ => .inr (Nat.lt_of_lt_of_le (hgw hok₁) (hpr c₁ _).1.size), fun h => absurd h hno⟩

theorem Conversion.Step.then {P Q Q' : Prop} (h : Step P c c') (h' : c'.ok = true → Step Q' c' c'')
    (hfail : c'.ok = false → c'' = c') (hQ : c' = c → (Q' ↔ Q)) : Step (P ∧ Q) c c'' := by
  cases hok : c'.ok with
  | false =>
    obtain rfl := hfail hok
    exact ⟨h.only, fun hok' => (nomatch hok.symm.trans hok'), fun hPQ => h.found hPQ.1⟩
  | true =>
    refine ⟨h.only.trans (h' hok).only, fun hok' => ?_, fun hPQ => ?_⟩
    · rcases h.cases hok with ⟨rfl, hP⟩ | hgw
      · exact ((h' hok).cases hok').imp_left fun hsame => ⟨hsame.1, hP, (hQ rfl).1 hsame.2⟩
      · exact .inr (Nat.lt_of_lt_of_le hgw (h' hok).only.size)
    · obtain rfl := h.found hPQ.1
      exact (h' hok).found ((hQ rfl).2 hPQ.2)

private theorem lc_each_failed {α : Type} {step : Conversion → α → Conversion} (rows : List α) (hok : c.ok = false) :
    c.each step rows = c := by
  unfold Conversion.each
  induction rows with
  | nil => rfl
  | cons row rest ih => simpa [hok] using ih

theorem Conversion.each_step {α : Type} {step : Conversion → α → Conversion} {P : SqlDb → α → Prop}
    (hstep : ∀ c row, c.ok = true → Step (P c.db row) c (step c row)) (rows : List α) (hok : c.ok = true) :
    Step (∀ row ∈ rows, P c.db row) c (c.each step rows) := by
  induction rows generalizing c with
  | nil => exact ⟨.refl _, fun _ => .inl ⟨rfl, nofun⟩, fun _ => rfl⟩
  | cons row rest ih =>
    have heach : c.each step (row :: rest) = (step c row).each step rest := by simp [Conversion.each, hok]
    rw [heach]
    have hboth := (hstep c row hok).then (Q := ∀ row ∈ rest, P c.db row) (fun hok' => ih hok')
      (lc_each_failed rest) (fun hsame => by rw [hsame])
    simpa only [List.forall_mem_cons] using hboth

structure Converted (env : InitEnv) (db : SqlDb) : Prop where
  profiles : ∀ p ∈ db.rows "app_profiles", ProfileConverted env db p
  hosts : ∀ m ∈ hostManifests db, ManifestConverted db m
  globals : ∀ g ∈ (db.rows "dotfile_manifests").filter isGlobal, ∀ host ∈ db.rows "hosts", GlobalConverted db (g, host)

private theorem lc_hostManifest (env : InitEnv) (m : SqlRow) (hok : c.ok = true) :
    Conversion.Step (ManifestConverted c.db m) c (convertHostManifest env c m) := by
  unfold convertHostManifest ManifestConverted
  cases (c.db.rows "hosts").find? (fun h => sqlEq (h "id") (m "host_id")) with
  | none => exact ⟨.refl _, fun _ => .inl ⟨rfl, nofun⟩, fun _ => rfl⟩
  | some host =>
    have h := protectHost_step env m host hok
    exact ⟨h.only,
      fun hok' => (h.cases hok').imp_left fun hsame => ⟨hsame.1, fun _ heq => Option.some.inj heq ▸ hsame.2⟩,
      fun hP => h.found (hP host rfl)⟩

private theorem lc_globalManifest (env : InitEnv) (work : SqlRow × SqlRow) (hok : c.ok = true) :
    Conversion.Step (GlobalConverted c.db work) c (convertGlobalManifest env c work) := by
  unfold convertGlobalManifest GlobalConverted
  cases hal : alreadyHostSpecific c.db work.1 work.2 with
  | true => exact ⟨.refl _, fun _ => .inl ⟨rfl, nofun⟩, fun _ => rfl⟩
  | false =>
    have h := protectHost_step env work.1 work.2 hok
    exact ⟨h.only, fun hok' => (h.cases hok').imp_left fun hsame => ⟨hsame.1, fun _ => hsame.2⟩,
      fun hP => h.found (hP rfl)⟩

theorem convertLegacyAppConfig_step (env : InitEnv) (db : SqlDb) :
    Conversion.Step (Converted env db) ⟨db, 0, true⟩ (convertLegacyAppConfig env db) := by
  have hpr : Conversion.Step (∀ p ∈ db.rows "app_profiles", ProfileConverted env db p) ⟨db, 0, true⟩
      (convertProfilesToTemplates env ⟨db, 0, true⟩) :=
    Conversion.each_step (c := ⟨db, 0, true⟩) (fun _ p _ => convertProfile_step p) (db.rows "app_profiles") rfl
  have hho := fun (c : Conversion) (hok : c.ok = true) =>
    Conversion.each_step (P := ManifestConverted) (fun _ m hok => lc_hostManifest env m hok)
      (hostManifests c.db) hok
  have hgl := fun (c : Conversion) (hok : c.ok = true) =>
    Conversion.each_step (P := GlobalConverted) (fun _ work hok => lc_globalManifest env work hok)
      (((c.db.rows "dotfile_manifests").filter isGlobal).flatMap fun g =>
        (c.db.rows "hosts").map fun host => (g, host)) hok
  unfold convertLegacyAppConfig
  generalize convertProfilesToTemplates env ⟨db, 0, true⟩ = c₁ at hpr ⊢
  have htwo : Conversion.Step _ _ (if c₁.ok then convertHostManifests env c₁ else c₁) := hpr.then
    (fun hok => by rw [if_pos hok]; exact hho c₁ hok) (fun hok => by simp [hok]) (fun hsame => by rw [hsame])
  simp only
  generalize (if c₁.ok then convertHostManifests env c₁ else c₁) = c₂ at htwo ⊢
  have hth : Conversion.Step _ _ (if c₂.ok then convertGlobalManifests env c₂ else c₂) := htwo.then
    (fun hok => by rw [if_pos hok]; exact hgl c₂ hok) (fun hok => by simp [hok]) (fun hsame => by rw [hsame])
  refine ⟨hth.only, fun hok => (hth.cases hok).imp_left fun hsame => ⟨hsame.1, ?_⟩, fun h => hth.found ?_⟩
  · obtain ⟨-, ⟨hp, hh⟩, hg⟩ := hsame
    refine ⟨hp, hh, fun g hgmem host hhost => hg (g, host) ?_⟩
    exact List.mem_flatMap.2 ⟨g, hgmem, List.mem_map.2 ⟨host, hhost, rfl⟩⟩
  refine ⟨⟨h.profiles, h.hosts⟩, fun work hwork => ?_⟩
  obtain ⟨g, hgmem, hmem⟩ := List.mem_flatMap.1 hwork
  obtain ⟨host, hhost, rfl⟩ := List.mem_map.1 hmem
  exact h.globals g hgmem host hhost

theorem convertLegacyAppConfig_rows (env : InitEnv) (db : SqlDb) :
    ((convertLegacyAppConfig env db).ok = true ∧ (convertLegacyAppConfig env db).db.rows = db.rows) ↔
      Converted env db := by
  have hstep := convertLegacyAppConfig_step env db
  constructor
  · rintro ⟨hok, hrows⟩
    rcases hstep.cases hok with ⟨-, h⟩ | hgw
    · exact h
    · simp only [convertedRows, hrows, Nat.lt_irrefl] at hgw
  intro h
  rw [hstep.found h]
  exact ⟨rfl, rfl⟩

end LamaSync
