import Zpay.Core.MigrationSteps

/-!
# Runs of the migrations

From any database that a binary of some schema version can have left, the runner may be
started any number of times, and each time be cut before any of its batches.  Whatever
happens, the rows are those the first database had, with the new columns at their defaults.

## Main results

* `ensures_runMigrations` — one run, from one version.
* `run_migrations_preserves` — any number of runs.
-/

open Zpay.Data Zpay.Data.Sql Zpay.Machine

namespace Zpay.Core.Migrations

/-! ## What the scripts keep -/

/-- A ledger row before and after the scripts from one version to another. -/
structure Kept (k j : Nat) (row row' : StoreRow) : Prop where
  earlier : ∀ column ∈ ledgerColumns k, row' column.name = row column.name
  new : ∀ column ∈ addedColumns k j, row' column.name = column.default

/-- The rows after the scripts from version `k` to version `j`. -/
structure Reaches (k : Nat) (contents : Contents) (j : Nat) (contents' : Contents) : Prop where
  left : LeftBy j contents'
  le : k ≤ j
  versions : contents.versions <+: contents'.versions
  prepared : contents'.prepared = contents.prepared
  ledger : contents'.ledger = contents.ledger.map (setDefaults (addedColumns k j))
  same : j = k → contents' = contents

section Reaches

variable {k j j' : Nat} {contents contents' contents'' : Contents} {nowSeconds : Int}

theorem LeftBy.le (h : LeftBy k contents) : k ≤ 4 := by
  cases h with
  | empty => exact Nat.zero_le 4
  | version _ hle _ => exact hle

theorem LeftBy.valid (h : LeftBy k contents) (hpos : 1 ≤ k) : contents.Valid k := by
  cases h with
  | empty => exact absurd hpos (by decide)
  | version _ _ hvalid => exact hvalid

theorem addedColumns_self (k : Nat) : addedColumns k k = [] := List.drop_length

theorem addedColumns_succ (k : Nat) : addedColumns k (k + 1) = newColumns (k + 1) :=
  List.drop_left

theorem addedColumns_append (h : k ≤ j) (h' : j ≤ j') :
    addedColumns k j' = addedColumns k j ++ addedColumns j j' := by
  have hwhole := ledgerColumns_append (h.trans h')
  rw [ledgerColumns_append h', ledgerColumns_append h, List.append_assoc] at hwhole
  exact (List.append_cancel_left hwhole).symm

theorem setDefaults_append (columns columns' : List (Column ColumnName)) (row : StoreRow) :
    setDefaults (columns ++ columns') row = setDefaults columns' (setDefaults columns row) :=
  List.foldl_append

theorem Reaches.refl (h : LeftBy k contents) : Reaches k contents k contents where
  left := h
  le := Nat.le_refl k
  versions := List.prefix_rfl
  prepared := rfl
  ledger := by
    rw [addedColumns_self]
    exact (List.map_id' contents.ledger).symm
  same _ := rfl

theorem Reaches.trans (h : Reaches k contents j contents')
    (h' : Reaches j contents' j' contents'') : Reaches k contents j' contents'' where
  left := h'.left
  le := h.le.trans h'.le
  versions := h.versions.trans h'.versions
  prepared := h'.prepared.trans h.prepared
  ledger := by
    rw [h'.ledger, h.ledger, List.map_map, addedColumns_append h.le h'.le]
    exact List.map_congr_left fun row _ => (setDefaults_append _ _ row).symm
  same heq := by
    subst heq
    have hmid : j = j' := Nat.le_antisymm h'.le h.le
    subst hmid
    exact (h'.same rfl).trans (h.same rfl)

theorem reaches_migrated (hvalid : (contents.migrated (k + 1) nowSeconds).Valid (k + 1))
    (hle : k + 1 ≤ 4) :
    Reaches k contents (k + 1) (contents.migrated (k + 1) nowSeconds) where
  left := .version (Nat.le_add_left 1 k) hle hvalid
  le := Nat.le_succ k
  versions := List.prefix_append _ _
  prepared := rfl
  ledger := by
    rw [addedColumns_succ]
    rfl
  same heq := absurd heq (Nat.succ_ne_self k)

/-- The names of the ledger's columns are all different. -/
theorem names_disjoint (hle : k ≤ j) (hj : j ≤ 4) {c : Column ColumnName}
    (hc : c ∈ ledgerColumns k) : c.name ∉ (addedColumns k j).map Column.name := by
  have hnodup : ((ledgerColumns 4).map Column.name).Nodup := by decide
  rw [ledgerColumns_append hj, List.map_append] at hnodup
  have hprefix := (List.nodup_append.1 hnodup).1
  rw [ledgerColumns_append hle, List.map_append] at hprefix
  intro hmem
  exact (List.nodup_append.1 hprefix).2.2 _ (List.mem_map_of_mem hc) _ hmem rfl

theorem names_nodup (hle : k ≤ j) (hj : j ≤ 4) : ((addedColumns k j).map Column.name).Nodup := by
  have hnodup : ((ledgerColumns 4).map Column.name).Nodup := by decide
  rw [ledgerColumns_append hj, List.map_append] at hnodup
  have hprefix := (List.nodup_append.1 hnodup).1
  rw [ledgerColumns_append hle, List.map_append] at hprefix
  exact (List.nodup_append.1 hprefix).2.1

theorem kept_setDefaults (hle : k ≤ j) (hj : j ≤ 4) (row : StoreRow) :
    Kept k j row (setDefaults (addedColumns k j) row) where
  earlier _ hc := setDefaults_of_not_mem (names_disjoint hle hj hc)
  new _ hc := setDefaults_of_mem (names_nodup hle hj) hc

theorem Reaches.kept (h : Reaches k contents j contents') :
    List.Forall₂ (Kept k j) contents.ledger contents'.ledger := by
  rw [h.ledger, List.forall₂_map_right_iff]
  exact List.forall₂_same.2 fun row _ => kept_setDefaults h.le h.left.le row

/-- The outcome columns are of the first version, so no script changes them. -/
theorem outcome_setDefaults (hpos : 1 ≤ k) (hle : k ≤ j) (hj : j ≤ 4) (row : StoreRow) :
    settlementOutcomeColumns.eval (setDefaults (addedColumns k j) row) =
      settlementOutcomeColumns.eval row := by
  have hfirst : ∀ name ∈ settlementOutcomeColumns.columns,
      ∃ c ∈ ledgerColumns 1, c.name = name := by decide
  refine eval_congr _ fun name hname => ?_
  obtain ⟨c, hc, rfl⟩ := hfirst name hname
  have hmem : c ∈ ledgerColumns k := by
    rw [ledgerColumns_append hpos]
    exact List.mem_append_left _ hc
  exact (kept_setDefaults hle hj row).earlier c hmem

end Reaches

/-! ## What the queries answer -/

section Queries

variable {k : Nat} {contents : Contents}

/-- The rows that break the contract of the outcome columns. -/
def Contents.violations (contents : Contents) : Nat :=
  contents.ledger.countP fun row => settlementOutcomeColumns.eval row ≠ some true

theorem violations_eq_zero :
    contents.violations = 0 ↔
      ∀ row ∈ contents.ledger, settlementOutcomeColumns.eval row = some true := by
  unfold Contents.violations
  rw [List.countP_eq_zero]
  simp only [ne_eq, decide_eq_true_eq, not_not]

theorem maxOf_version (h : contents.Valid (k + 1)) :
    (databaseAt (k + 1) contents).maxOf .zpaySchemaMigrations .version =
      .ok (.integer (k + 1 : Nat)) := by
  have hlast : ∃ row ∈ contents.versions, row .version = .integer (k + 1 : Nat) :=
    (h.numbers _).2 ⟨by omega, by omega⟩
  have hmem : .integer (k + 1 : Nat) ∈ contents.versions.map fun row => row .version := by
    obtain ⟨row, hrow, hversion⟩ := hlast
    exact List.mem_map.2 ⟨row, hrow, hversion⟩
  have hall : ∀ value ∈ contents.versions.map fun row => row .version,
      ∃ n ≤ ((k + 1 : Nat) : Int), value = .integer n := by
    intro value hvalue
    obtain ⟨row, hrow, rfl⟩ := List.mem_map.1 hvalue
    have htype := h.versions.typed row hrow _ List.mem_cons_self
    have hkey := h.versions.keys row hrow
    change ColumnType.integer.admits (row .version) = true at htype
    change row .version ≠ .null at hkey
    cases hversion : row .version with
    | null => exact absurd hversion hkey
    | text | blob =>
        rw [hversion] at htype
        exact absurd htype (by simp [ColumnType.admits])
    | integer n => exact ⟨n, ((h.numbers n).1 ⟨row, hrow, hversion⟩).2, rfl⟩
  exact congrArg Except.ok (maxValue_eq hmem hall)

theorem countWhere_violates (h : contents.Valid (k + 1)) :
    (databaseAt (k + 1) contents).countWhere .settlementLedger violatesOutcomeColumns =
      .ok contents.violations := by
  show Except.ok _ = Except.ok _
  congr 1
  refine List.countP_congr fun row hrow => ?_
  simp only [decide_eq_true_eq]
  exact violates_iff (h.ledger.accepted row hrow)

end Queries

/-! ## One run -/

/-- The database is what the scripts up to version `j` made of the first one. -/
def At (k : Nat) (contents : Contents) (j : Nat) (db : StoreDatabase) : Prop :=
  ∃ contents', db = databaseAt j contents' ∧ Reaches k contents j contents'

def Somewhere (k : Nat) (contents : Contents) (db : StoreDatabase) : Prop :=
  ∃ j, At k contents j db

/-- The third version, where every row is within the contract of the outcome columns. -/
def Within (k : Nat) (contents : Contents) (db : StoreDatabase) : Prop :=
  ∃ contents', db = databaseAt 3 contents' ∧ Reaches k contents 3 contents' ∧
    contents'.violations = 0

/-- The third version, where some row is not, and the error that says so. -/
def Refused (k : Nat) (contents : Contents) (err : MigrationError) (db : StoreDatabase) : Prop :=
  ∃ contents', db = databaseAt 3 contents' ∧ Reaches k contents 3 contents' ∧
    contents'.violations ≠ 0 ∧
    err = .schemaInvariantViolation settlementOutcomeColumnsInvariant
      (.ofNat contents'.violations)

section Run

variable {texts : LibsqlTexts} {k j : Nat} {contents : Contents} {nowSeconds : Int}
  {P C : StoreDatabase → Prop} {E : MigrationError → StoreDatabase → Prop}

theorem ensures_applyMigration {sql : Script} {Q : Unit → StoreDatabase → Prop}
    (hcut : ∀ db, P db → C db)
    (hok : ∀ db, P db → ∃ db', executeBatch sql db = .ok db' ∧ Q () db') :
    Ensures P (applyMigration texts sql) Q E C := by
  refine ensures_update hcut fun db hdb => ?_
  obtain ⟨db', hexecute, hq⟩ := hok db hdb
  refine ⟨db', ?_, hq⟩
  rw [hexecute]
  rfl

theorem ensures_migration0001 :
    Ensures (At k contents k) (applyMigration texts (migration0001 nowSeconds))
      (fun _ => At k contents (max k 1)) E (Somewhere k contents) := by
  refine ensures_applyMigration (fun db hdb => ⟨k, hdb⟩) ?_
  rintro db ⟨contents', rfl, hreaches⟩
  cases hreaches.left with
  | empty =>
      exact ⟨_, migration0001_empty, _, rfl,
        hreaches.trans (reaches_migrated valid_migrated_1 (by decide))⟩
  | version hpos hle hvalid =>
      obtain ⟨k, rfl⟩ := Nat.exists_eq_add_of_le' hpos
      rw [Nat.max_eq_left hpos]
      exact ⟨_, migration0001_again hvalid, _, rfl, hreaches⟩

theorem readVersion_ofNat (hle : j ≤ 4) :
    readVersion texts (.integer (j : Nat)) = .ok (.ofNat j) := by
  have hfits : (0 : Int) ≤ j ∧ (j : Int) < 2 ^ 32 := ⟨by omega, by omega⟩
  simp only [readVersion, if_pos hfits, Int.toNat_natCast]

theorem ensures_maxAppliedVersion (hpos : 1 ≤ j) :
    Ensures (At k contents j) (maxAppliedVersion texts)
      (fun applied db => applied = .ofNat j ∧ At k contents j db) E (Somewhere k contents) := by
  have hread : ∀ db, At k contents j db →
      (do
        let raw ← unavailable texts "read of migration version failed: "
          (Database.maxOf db .zpaySchemaMigrations .version)
        readVersion texts raw) = .ok (.ofNat j) := by
    rintro db ⟨contents', rfl, hreaches⟩
    have hle := hreaches.left.le
    obtain ⟨j, rfl⟩ := Nat.exists_eq_add_of_le' hpos
    simp only [maxOf_version (hreaches.left.valid hpos), unavailable, Except.mapError, bind,
      Except.bind]
    exact readVersion_ofNat hle
  refine ensures_query (fun db hdb => ⟨j, hdb⟩) ?_ ?_
  · intro db applied hdb h
    exact ⟨(Except.ok.inj ((hread db hdb).symm.trans h)).symm, hdb⟩
  · intro db err hdb h
    exact absurd ((hread db hdb).symm.trans h) (by simp)

/-- What the validation answers: how many rows break the contract, if any. -/
theorem validate_eq (h : contents.Valid (j + 1)) :
    (do
      let violatingRows ← unavailable texts "settlement outcome invariant query failed: "
        ((databaseAt (j + 1) contents).countWhere .settlementLedger violatesOutcomeColumns)
      ensure (violatingRows = 0)
        (MigrationError.schemaInvariantViolation settlementOutcomeColumnsInvariant
          (.ofNat violatingRows))) =
      if contents.violations = 0 then .ok ()
      else .error (.schemaInvariantViolation settlementOutcomeColumnsInvariant
        (.ofNat contents.violations)) := by
  simp only [countWhere_violates h, unavailable, Except.mapError, bind, Except.bind, ensure]

/-- At the third version the validation decides. -/
theorem ensures_validate_3 :
    Ensures (At k contents 3) (validateSettlementOutcomeColumns texts)
      (fun _ => Within k contents) (Refused k contents) (Somewhere k contents) := by
  refine ensures_query (fun db hdb => ⟨3, hdb⟩) ?_ ?_
  · rintro db ⟨⟩ ⟨contents', rfl, hreaches⟩ h
    rw [validate_eq (hreaches.left.valid (by decide))] at h
    by_cases hzero : contents'.violations = 0
    · exact ⟨contents', rfl, hreaches, hzero⟩
    · rw [if_neg hzero] at h
      exact absurd h (by simp)
  · rintro db err ⟨contents', rfl, hreaches⟩ h
    rw [validate_eq (hreaches.left.valid (by decide))] at h
    by_cases hzero : contents'.violations = 0
    · rw [if_pos hzero] at h
      exact absurd h (by simp)
    · rw [if_neg hzero] at h
      exact ⟨contents', rfl, hreaches, hzero, (Except.error.inj h).symm⟩

theorem violations_of_left (h : LeftBy 4 contents) : contents.violations = 0 :=
  violations_eq_zero.2 fun row hrow =>
    outcome_of_accepts ((h.valid (by decide)).ledger.accepted row hrow)

/-- At the fourth the table's `CHECK` has seen to it. -/
theorem ensures_validate_4 :
    Ensures (At k contents 4) (validateSettlementOutcomeColumns texts)
      (fun _ => At k contents 4) E (Somewhere k contents) := by
  refine ensures_query (fun db hdb => ⟨4, hdb⟩) (fun _ _ hdb _ => hdb) ?_
  rintro db err ⟨contents', rfl, hreaches⟩ h
  rw [validate_eq (hreaches.left.valid (by decide)), if_pos (violations_of_left hreaches.left)] at h
  exact absurd h (by simp)

/-- A script that makes of version `j` the next one. -/
theorem ensures_script (nowSeconds : Int) {sql : Script} (hpos : 1 ≤ j) (hle : j + 1 ≤ 4)
    (hscript : ∀ db, P db → ∃ contents', db = databaseAt j contents' ∧
      Reaches k contents j contents' ∧
      executeBatch sql (databaseAt j contents') =
        .ok (databaseAt (j + 1) (contents'.migrated (j + 1) nowSeconds)) ∧
      (ledgerTable (j + 1) (contents'.migrated (j + 1) nowSeconds).ledger).Valid) :
    Ensures P (applyMigration texts sql) (fun _ => At k contents (j + 1)) E
      (Somewhere k contents) := by
  refine ensures_applyMigration ?_ ?_
  · intro db hdb
    obtain ⟨contents', hat, hreaches, -⟩ := hscript db hdb
    exact ⟨j, contents', hat, hreaches⟩
  · intro db hdb
    obtain ⟨contents', rfl, hreaches, hexecute, hledger⟩ := hscript db hdb
    have hvalid := (hreaches.left.valid hpos).migrated hledger
    exact ⟨_, hexecute, _, rfl, hreaches.trans (reaches_migrated hvalid hle)⟩

theorem ensures_migration0002 :
    Ensures (At k contents 1) (applyMigration texts (migration0002 nowSeconds))
      (fun _ => At k contents 2) E (Somewhere k contents) := by
  refine ensures_script nowSeconds (by decide) (by decide) ?_
  rintro db ⟨contents', hat, hreaches⟩
  have hvalid := hreaches.left.valid (by decide)
  exact ⟨contents', hat, hreaches, migration0002_ok hvalid,
    ledger_valid_of_columns hvalid.ledger rfl (by decide) (by decide) (by decide)⟩

theorem ensures_migration0003 :
    Ensures (At k contents 2) (applyMigration texts (migration0003 nowSeconds))
      (fun _ => At k contents 3) E (Somewhere k contents) := by
  refine ensures_script nowSeconds (by decide) (by decide) ?_
  rintro db ⟨contents', hat, hreaches⟩
  have hvalid := hreaches.left.valid (by decide)
  exact ⟨contents', hat, hreaches, migration0003_ok hvalid,
    ledger_valid_of_columns hvalid.ledger rfl (by decide) (by decide) (by decide)⟩

theorem ensures_migration0004 :
    Ensures (Within k contents) (applyMigration texts (migration0004 nowSeconds))
      (fun _ => At k contents 4) E (Somewhere k contents) := by
  refine ensures_script nowSeconds (by decide) (by decide) ?_
  rintro db ⟨contents', hat, hreaches, hzero⟩
  have hvalid := hreaches.left.valid (by decide)
  have houtcome := violations_eq_zero.1 hzero
  have hsame : (contents'.migrated 4 nowSeconds).ledger = contents'.ledger :=
    List.map_id' contents'.ledger
  have hledger : (ledgerTable 4 (contents'.migrated 4 nowSeconds).ledger).Valid := by
    rw [hsame]
    exact ledger_valid_of_outcomes hvalid.ledger houtcome
  exact ⟨contents', hat, hreaches, migration0004_ok hvalid houtcome, hledger⟩

theorem ofNat_lt_ofNat {a b : Nat} (ha : a ≤ 4) (hb : b ≤ 4) :
    UInt32.ofNat a < UInt32.ofNat b ↔ a < b := by
  have hfits : ∀ n ≤ 4, (UInt32.ofNat n).toNat = n :=
    fun n hn => UInt32.toNat_ofNat_of_lt' (Nat.lt_of_le_of_lt hn (by decide))
  rw [UInt32.lt_iff_toNat_lt, hfits a ha, hfits b hb]

/-- A script runs where its version has not been reached, and there it reaches it. -/
theorem ensures_turn {m : Session StoreDatabase MigrationError Unit} (hk : k ≤ 4) (hj : j + 1 ≤ 4)
    (hm : Ensures (At k contents j) m (fun _ => At k contents (j + 1)) (Refused k contents)
      (Somewhere k contents)) :
    Ensures (At k contents (max (max k 1) j))
      (if UInt32.ofNat (max k 1) < UInt32.ofNat (j + 1) then m else pure ())
      (fun _ => At k contents (max (max k 1) (j + 1))) (Refused k contents)
      (Somewhere k contents) := by
  apply ensures_ite
  · intro hlt
    rw [ofNat_lt_ofNat (by omega) hj] at hlt
    have hfrom : max (max k 1) j = j := by omega
    have hto : max (max k 1) (j + 1) = j + 1 := by omega
    rw [hfrom, hto]
    exact hm
  · intro hge
    rw [ofNat_lt_ofNat (by omega) hj] at hge
    have hstays : max (max k 1) j = max (max k 1) (j + 1) := by omega
    rw [hstays]
    exact ensures_pure fun db hdb => hdb

/-- The loop over the scripts after the first. -/
theorem ensures_loop (hk : k ≤ 4) (now : UInt32 → Int) :
    Ensures (At k contents (max k 1))
      ((migrations.drop 1).forM fun (version, sql) =>
        if UInt32.ofNat (max k 1) < version then do
          if version = 4 then validateSettlementOutcomeColumns texts
          applyMigration texts (sql (now version))
        else pure ())
      (fun _ => At k contents 4) (Refused k contents) (Somewhere k contents) := by
  have hstart : max (max k 1) 1 = max k 1 := by omega
  have hend : max (max k 1) 4 = 4 := by omega
  have hloop := ensures_forM (I := fun i => At k contents (max (max k 1) (i + 1)))
    (E := Refused k contents) (C := Somewhere k contents)
    (g := fun (version, sql) =>
      if UInt32.ofNat (max k 1) < version then do
        if version = 4 then validateSettlementOutcomeColumns texts
        applyMigration texts (sql (now version))
      else pure ()) (migrations.drop 1) ?_
  · rw [hstart] at hloop
    exact hloop.mono (fun _ h => h) (fun _ _ h => hend ▸ h) (fun _ _ h => h) (fun _ h => h)
  · rintro i ⟨version, sql⟩ hx
    match i, hx with
    | 0, rfl =>
        exact ensures_turn hk (by decide) (ensures_ite
          (fun hversion => absurd hversion (by decide)) fun _ => ensures_migration0002)
    | 1, rfl =>
        exact ensures_turn hk (by decide) (ensures_ite
          (fun hversion => absurd hversion (by decide)) fun _ => ensures_migration0003)
    | 2, rfl =>
        exact ensures_turn hk (by decide) (ensures_ite
          (fun _ => ensures_bind ensures_validate_3 fun _ => ensures_migration0004)
          fun hversion => absurd rfl hversion)

/-- One run, from a database of version `k`. -/
theorem ensures_runMigrations (hk : k ≤ 4) (now : UInt32 → Int) :
    Ensures (At k contents k) (runMigrations texts now) (fun _ => At k contents 4)
      (Refused k contents) (Somewhere k contents) := by
  refine ensures_bind ensures_migration0001 fun _ => ?_
  refine ensures_bind (ensures_maxAppliedVersion (Nat.le_max_right k 1)) fun applied => ?_
  refine ensures_of_pre ?_
  rintro rfl
  apply ensures_ite
  · intro hpending
    have hbound : ¬ UInt32.ofNat 4 < UInt32.ofNat (max k 1) := by
      rw [ofNat_lt_ofNat (by decide) (by omega)]
      omega
    exact absurd hpending hbound
  · intro _
    exact ensures_bind (ensures_loop hk now) fun _ => ensures_validate_4

end Run

/-! ## Any number of runs -/

/-- Some row of the ledger is not within the contract of the outcome columns. -/
def Contents.Violating (contents : Contents) : Prop :=
  ∃ row ∈ contents.ledger, settlementOutcomeColumns.eval row ≠ some true

/-- The rows of a database at the last version, beside those of the first one. -/
structure Migrated (texts : LibsqlTexts) (k : Nat) (contents contents' : Contents) : Prop where
  recorded : contents.versions <+: contents'.versions
  versions : ∀ n : Int,
    (∃ row ∈ contents'.versions, row .version = .integer n) ↔ 1 ≤ n ∧ n ≤ 4
  prepared : contents'.prepared = contents.prepared
  ledger : List.Forall₂ (Kept k 4) contents.ledger contents'.ledger
  outcomes : ∀ row ∈ contents'.ledger, settlementOutcomeColumns.eval row = some true
  decodes : ∀ row ∈ contents'.ledger, ∃ entry, rowToLedgerEntry texts row = .ok entry

/-- What a run promises that finds the database `db`, which runs before it made of a
database of version `k`. -/
structure RowsPreserved (texts : LibsqlTexts) (k : Nat) (contents : Contents) (db : StoreDatabase)
    (last : Attempt (UInt32 → Int)) : Prop where
  /-- Where it returns, the database is at the last version. -/
  ok : (attempt (runMigrations texts) db last).1 = .ok () →
    ∃ contents', (attempt (runMigrations texts) db last).2 = databaseAt 4 contents' ∧
      Migrated texts k contents contents'
  /-- From there, further runs change nothing, and return. -/
  rerun : (attempt (runMigrations texts) db last).1 = .ok () →
    ∀ more again,
      attempts (runMigrations texts) (attempt (runMigrations texts) db last).2 more =
        (attempt (runMigrations texts) db last).2 ∧
      (again.stepsLeft = none →
        (attempt (runMigrations texts) (attempt (runMigrations texts) db last).2 again).1 = .ok ())
  /-- It returns, unless it is cut or some row violates the contract. -/
  returns : ¬ contents.Violating → last.stepsLeft = none →
    (attempt (runMigrations texts) db last).1 = .ok ()
  /-- Then it says so, and the database is at the version before. -/
  refused : contents.Violating → last.stepsLeft = none →
    (attempt (runMigrations texts) db last).1 =
      .error (.failed (.schemaInvariantViolation "settlement_outcome_columns_v4"
        (.ofNat contents.violations))) ∧
    ∃ contents', (attempt (runMigrations texts) db last).2 = databaseAt 3 contents' ∧
      contents'.prepared = contents.prepared ∧
      List.Forall₂ (Kept k 3) contents.ledger contents'.ledger
  /-- A database that was at that version already is not touched. -/
  untouched : contents.Violating → k = 3 → db = databaseAt 3 contents ∧
    (attempt (runMigrations texts) db last).2 = databaseAt 3 contents

section Runs

variable {texts : LibsqlTexts} {k j : Nat} {contents contents' : Contents} {db : StoreDatabase}
  {last : Attempt (UInt32 → Int)}

theorem At.trans (h : Reaches k contents j contents') {i : Nat} (hdb : At j contents' i db) :
    At k contents i db := by
  obtain ⟨contents'', rfl, hreaches⟩ := hdb
  exact ⟨contents'', rfl, h.trans hreaches⟩

theorem At.start (h : LeftBy k contents) : At k contents k (databaseAt k contents) :=
  ⟨contents, rfl, .refl h⟩

/-- A database at the version that it began with is the one it began as. -/
theorem At.eq (h : At k contents k db) : db = databaseAt k contents := by
  obtain ⟨contents', rfl, hreaches⟩ := h
  rw [hreaches.same rfl]

theorem violating_iff : contents.Violating ↔ contents.violations ≠ 0 := by
  unfold Contents.Violating
  rw [ne_eq, violations_eq_zero]
  simp only [not_forall, ne_eq, exists_prop]

theorem Reaches.violations (hleft : LeftBy k contents) (h : Reaches k contents j contents') :
    contents'.violations = contents.violations := by
  unfold Contents.violations
  rw [h.ledger, List.countP_map]
  cases hleft with
  | empty => rfl
  | version hpos hle hvalid =>
      refine List.countP_congr fun row _ => ?_
      simp only [Function.comp, outcome_setDefaults hpos h.le h.left.le row]

theorem migrated_of_reaches (h : Reaches k contents 4 contents') :
    Migrated texts k contents contents' where
  recorded := h.versions
  versions := (h.left.valid (by decide)).numbers
  prepared := h.prepared
  ledger := h.kept
  outcomes := violations_eq_zero.1 (violations_of_left h.left)
  decodes _ hrow := rowToLedgerEntry_ok texts (h.left.valid (by decide)).ledger hrow

/-- A run from anywhere between, seen from the first database. -/
theorem ensures_from (hreaches : Reaches k contents j contents') (now : UInt32 → Int) :
    Ensures (· = databaseAt j contents') (runMigrations texts now) (fun _ => At k contents 4)
      (Refused k contents) (Somewhere k contents) := by
  have hrun : Ensures (At j contents' j) (runMigrations texts now) (fun _ => At j contents' 4)
      (Refused j contents') (Somewhere j contents') := ensures_runMigrations hreaches.left.le now
  refine hrun.mono ?_ (fun _ _ h => h.trans hreaches) ?_ fun s ⟨i, h⟩ => ⟨i, h.trans hreaches⟩
  · rintro s rfl
    exact At.start hreaches.left
  · rintro err s ⟨contents'', rfl, hreaches', hrefused⟩
    exact ⟨contents'', rfl, hreaches.trans hreaches', hrefused⟩

theorem somewhere_attempts (hleft : LeftBy k contents) (as : List (Attempt (UInt32 → Int))) :
    Somewhere k contents (attempts (runMigrations texts) (databaseAt k contents) as) := by
  refine run_attempts (fun now => ?_) ⟨k, At.start hleft⟩ as
  rintro live ⟨j, contents', hdb, hreaches⟩
  refine (ensures_from hreaches now).mono (fun _ h => h) (fun _ s h => ⟨4, h⟩) ?_ (fun _ h => h)
    live hdb
  rintro err s ⟨contents'', rfl, hreaches', -⟩
  exact ⟨3, contents'', rfl, hreaches'⟩

theorem somewhere_ended_ok (hdb : Somewhere k contents db)
    (h : (attempt (runMigrations texts) db last).1 = .ok ()) :
    At k contents 4 (attempt (runMigrations texts) db last).2 := by
  obtain ⟨j, contents', hdb, hreaches⟩ := hdb
  exact attempt_ok (ensures_from hreaches last.input) hdb h

theorem somewhere_ended_failed (hdb : Somewhere k contents db) {err : MigrationError}
    (h : (attempt (runMigrations texts) db last).1 = .error (.failed err)) :
    Refused k contents err (attempt (runMigrations texts) db last).2 := by
  obtain ⟨j, contents', hdb, hreaches⟩ := hdb
  exact attempt_failed (ensures_from hreaches last.input) hdb h

theorem somewhere_ended_cut (hdb : Somewhere k contents db)
    (h : (attempt (runMigrations texts) db last).1 = .error .cut) : last.stepsLeft ≠ none := by
  obtain ⟨j, contents', hdb, hreaches⟩ := hdb
  exact (attempt_cut (ensures_from hreaches last.input) hdb h).2

/-- At the last version there is nothing left to do. -/
theorem at_last (hleft : LeftBy 4 contents) (as : List (Attempt (UInt32 → Int))) :
    attempts (runMigrations texts) (databaseAt 4 contents) as = databaseAt 4 contents := by
  have hsomewhere : Somewhere 4 contents
      (attempts (runMigrations texts) (databaseAt 4 contents) as) :=
    somewhere_attempts hleft as
  obtain ⟨j, hdb⟩ := hsomewhere
  have hj : j = 4 := by
    obtain ⟨contents', -, hreaches⟩ := hdb
    exact Nat.le_antisymm hreaches.left.le hreaches.le
  exact (hj ▸ hdb).eq

/-- A row that violates the contract keeps a database at the version before the last. -/
theorem at_third (hleft : LeftBy 3 contents) (hviolating : contents.Violating)
    (hdb : Somewhere 3 contents db) : db = databaseAt 3 contents := by
  obtain ⟨j, contents', rfl, hreaches⟩ := hdb
  have hfour : j ≠ 4 := by
    rintro rfl
    rw [violating_iff, ← hreaches.violations hleft] at hviolating
    exact hviolating (violations_of_left hreaches.left)
  have hj : j = 3 := by
    have hle := hreaches.left.le
    have hge := hreaches.le
    omega
  subst hj
  rw [hreaches.same rfl]

theorem rowsPreserved (hleft : LeftBy k contents) (hdb : Somewhere k contents db)
    (hlast : Somewhere k contents (attempt (runMigrations texts) db last).2) :
    RowsPreserved texts k contents db last where
  ok h := by
    obtain ⟨contents', hat, hreaches⟩ := somewhere_ended_ok hdb h
    exact ⟨contents', hat, migrated_of_reaches hreaches⟩
  rerun h more again := by
    obtain ⟨contents', hat, hreaches⟩ := somewhere_ended_ok hdb h
    rw [hat]
    refine ⟨at_last hreaches.left more, fun hnone => ?_⟩
    have hstart : Somewhere 4 contents' (databaseAt 4 contents') := ⟨4, At.start hreaches.left⟩
    cases hend : (attempt (runMigrations texts) (databaseAt 4 contents') again).1 with
    | ok => rfl
    | error halt =>
        cases halt with
        | failed err =>
            obtain ⟨_, -, hback, -⟩ := somewhere_ended_failed hstart hend
            exact absurd hback.le (by decide)
        | cut => exact absurd hnone (somewhere_ended_cut hstart hend)
  returns hwithin hnone := by
    cases hend : (attempt (runMigrations texts) db last).1 with
    | ok => rfl
    | error halt =>
        cases halt with
        | failed err =>
            obtain ⟨_, -, hreaches, hviolations, -⟩ := somewhere_ended_failed hdb hend
            rw [hreaches.violations hleft] at hviolations
            exact absurd (violating_iff.2 hviolations) hwithin
        | cut => exact absurd hnone (somewhere_ended_cut hdb hend)
  refused hviolating hnone := by
    cases hend : (attempt (runMigrations texts) db last).1 with
    | ok =>
        obtain ⟨_, -, hreaches⟩ := somewhere_ended_ok hdb hend
        rw [violating_iff, ← hreaches.violations hleft] at hviolating
        exact absurd (violations_of_left hreaches.left) hviolating
    | error halt =>
        cases halt with
        | failed err =>
            obtain ⟨contents', hat, hreaches, -, rfl⟩ := somewhere_ended_failed hdb hend
            refine ⟨?_, contents', hat, hreaches.prepared, hreaches.kept⟩
            rw [hreaches.violations hleft]
            rfl
        | cut => exact absurd hnone (somewhere_ended_cut hdb hend)
  untouched hviolating hthree := by
    subst hthree
    exact ⟨at_third hleft hviolating hdb, at_third hleft hviolating hlast⟩

end Runs

/-- However often the runner is started and cut, from whatever a binary of any schema version
left, and whichever run comes last. -/
theorem run_migrations_preserves (texts : LibsqlTexts) {k : Nat} {contents : Contents}
    (hleft : LeftBy k contents) (before : List (Attempt (UInt32 → Int)))
    (last : Attempt (UInt32 → Int)) :
    RowsPreserved texts k contents
      (attempts (runMigrations texts) (databaseAt k contents) before) last := by
  have hlast : Somewhere k contents (attempts (runMigrations texts) (databaseAt k contents)
      (before ++ [last])) := somewhere_attempts hleft (before ++ [last])
  rw [attempts, run_append] at hlast
  exact rowsPreserved hleft (somewhere_attempts hleft before) hlast

/-! ### A ledger of the first version -/

def legacyRow : StoreRow
  | .paymentId => .text "01HQ6N9YK4ZN5Z3M8WJX5T1F7Q"
  | .broadcastOutcomeKind => .text "accepted"
  | .transactionId => .text "aa"
  | .settledAtUnixSeconds => .integer 1700000000
  | _ => .null

def legacyContents : Contents where
  versions := [versionRow 1 1690000000 (versionDescription 1)]
  prepared := []
  ledger := [legacyRow]

theorem legacy_left : LeftBy 1 legacyContents := by
  have hempty : (Contents.migrated ⟨[], [], []⟩ 1 1690000000).Valid 1 := valid_migrated_1
  have hledger : (ledgerTable 1 []).Valid := Relation.valid_of_no_rows rfl rfl (by decide)
  refine .version (by decide) (by decide)
    { versions := hempty.versions
      numbers := hempty.numbers
      prepared := hempty.prepared
      idempotency := .nil
      ledger := hledger.insert ?_ (by decide) (by decide) (by decide) (by decide) }
  intro name hname
  cases name <;> first | rfl | exact absurd hname (by decide)

def legacyTexts : LibsqlTexts where
  failed _ := "SQLite failure"
  unreadable _ := "invalid column type"

/-- The first run is cut after three steps, the second is not. -/
theorem run_migrations_preserves_legacy :
    let cut : Attempt (UInt32 → Int) := { input := fun _ => 1700000100, stepsLeft := some 3 }
    let last : Attempt (UInt32 → Int) := { input := fun _ => 1700000200, stepsLeft := none }
    let db := attempts (runMigrations legacyTexts) (databaseAt 1 legacyContents) [cut]
    RowsPreserved legacyTexts 1 legacyContents db last ∧
      (attempt (runMigrations legacyTexts) db last).1 = .ok () := by
  intro cut last db
  have hpreserved : RowsPreserved legacyTexts 1 legacyContents db last :=
    run_migrations_preserves legacyTexts legacy_left [cut] last
  refine ⟨hpreserved, hpreserved.returns ?_ rfl⟩
  rintro ⟨row, hrow, hviolating⟩
  rw [List.mem_singleton.1 hrow] at hviolating
  exact hviolating (by decide)

end Zpay.Core.Migrations
