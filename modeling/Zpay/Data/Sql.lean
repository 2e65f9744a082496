import Mathlib.Data.List.Pairwise
import Mathlib.Logic.Function.Basic

/-!
# Schemas, rows and the statements that change them

A database of tables with typed columns, defaults, `NOT NULL`, `CHECK` and key constraints
and (partial, unique) indexes, and the statements that make, alter, fill, drop and rename
its tables.  Names of tables, columns and indexes are types of their own.

A row gives a value to every column name, `NULL` outside its table.  A value is stored as it
is given: a column's affinity changes no value of its own type.  Conditions are three-valued,
as in SQL: a `CHECK` rejects only what is false, a `WHERE` selects only what is true.

## Main results

* `insertRow_ok`, `insertRows_ok` — when rows can be inserted, and what they leave.
* `execute_addColumn`, `execute_renameTable`, … — what each statement does where it is
  allowed.
* `Relation.Valid.addColumn`, `Relation.Valid.insert` — what is stored stays well formed.
-/

namespace Zpay.Data.Sql

/-! ## Values and conditions -/

inductive Value
  | null
  | integer (n : Int)
  | text (s : String)
  | blob (bytes : List UInt8)
  deriving DecidableEq, Repr

/-- The order of values: by type, then within it. -/
def Value.max : Value → Value → Value
  | .null, v | v, .null => v
  | .integer n, .integer m => .integer (if n < m then m else n)
  | .integer _, v | v, .integer _ => v
  | .text s, .text t => .text (if s < t then t else s)
  | .text _, .blob b | .blob b, .text _ => .blob b
  | .blob a, .blob b => .blob (if a < b then b else a)

/-- `MAX`, which is null over no rows. -/
def maxValue (values : List Value) : Value := values.foldl Value.max .null

inductive ColumnType
  | integer
  | text
  | blob
  deriving DecidableEq, Repr

def ColumnType.admits : ColumnType → Value → Bool
  | _, .null | .integer, .integer _ | .text, .text _ | .blob, .blob _ => true
  | _, _ => false

section Definitions

variable (T C I : Type)

abbrev Row := C → Value

structure Column where
  name : C
  type : ColumnType
  notNull : Bool
  default : Value

inductive Condition
  | isNull (column : C)
  | isNotNull (column : C)
  /-- `column IN (…)`, of texts. -/
  | isIn (column : C) (texts : List String)
  /-- `column != text`. -/
  | differs (column : C) (text : String)
  /-- `column >= n`. -/
  | atLeast (column : C) (n : Int)
  | and (left right : Condition)
  | or (left right : Condition)
  /-- `CASE WHEN test THEN result … ELSE 1 END`, one test after the other. -/
  | caseWhen (test result rest : Condition)
  | always

/-- A table; its key is one column, and an inserted row has a value for it. -/
structure Relation where
  columns : List (Column C)
  primaryKey : C
  checks : List (Condition C)
  rows : List (Row C)

structure Index where
  unique : Bool
  table : T
  columns : List C
  condition : Option (Condition C)

@[ext] structure Database where
  tables : T → Option (Relation C)
  indexes : List (I × Index T C)

inductive Statement
  | createTable (ifNotExists : Bool) (table : T) (columns : List (Column C)) (primaryKey : C)
      (checks : List (Condition C))
  | addColumn (table : T) (column : Column C)
  | createIndex (ifNotExists : Bool) (name : I) (index : Index T C)
  /-- `INSERT [OR IGNORE] INTO table (…) VALUES (…)`. -/
  | insert (orIgnore : Bool) (table : T) (values : List (C × Value))
  /-- `INSERT INTO table (columns) SELECT columns FROM source`. -/
  | insertSelect (table : T) (columns : List C) (source : T)
  | dropTable (table : T)
  | renameTable (table newName : T)

inductive SqlError
  | tableExists (table : T)
  | noSuchTable (table : T)
  | indexExists (index : I)
  | duplicateColumn (column : C)
  | noSuchColumn
  | notNullWithoutDefault (column : C)
  | constraintFailed (table : T)
  | uniqueFailed (table : T)

end Definitions

variable {T C I : Type}

namespace Condition

def and3 : Option Bool → Option Bool → Option Bool
  | some false, _ | _, some false => some false
  | some true, some true => some true
  | _, _ => none

def or3 : Option Bool → Option Bool → Option Bool
  | some true, _ | _, some true => some true
  | some false, some false => some false
  | _, _ => none

def eval (row : Row C) : Condition C → Option Bool
  | isNull column => some (row column == .null)
  | isNotNull column => some (row column != .null)
  | isIn column texts =>
      match row column with
      | .null => none
      | .text s => some (texts.contains s)
      | .integer _ | .blob _ => some false
  | differs column text =>
      match row column with
      | .null => none
      | value => some (value != .text text)
  | atLeast column n =>
      match row column with
      | .null => none
      | .integer m => some (decide (n ≤ m))
      | .text _ | .blob _ => some true
  | and left right => and3 (left.eval row) (right.eval row)
  | or left right => or3 (left.eval row) (right.eval row)
  | caseWhen test result rest =>
      if test.eval row = some true then result.eval row else rest.eval row
  | always => some true

end Condition

/-- The columns a condition reads. -/
def Condition.columns : Condition C → List C
  | .isNull column | .isNotNull column | .isIn column _ | .differs column _
  | .atLeast column _ => [column]
  | .and left right | .or left right => left.columns ++ right.columns
  | .caseWhen test result rest => test.columns ++ result.columns ++ rest.columns
  | .always => []

theorem eval_congr {row row' : Row C} (condition : Condition C)
    (h : ∀ column ∈ condition.columns, row column = row' column) :
    condition.eval row = condition.eval row' := by
  induction condition with
  | isNull column | isNotNull column | isIn column | differs column | atLeast column =>
      have hcolumn : row column = row' column := h column (List.mem_singleton_self column)
      simp only [Condition.eval, hcolumn]
  | and left right hleft hright | or left right hleft hright =>
      have hboth := fun column => h column ∘ List.mem_append.2
      simp only [Condition.eval, hleft fun column hc => hboth column (.inl hc),
        hright fun column hc => hboth column (.inr hc)]
  | caseWhen test result rest htest hresult hrest =>
      have hall : ∀ column, column ∈ test.columns ∨ column ∈ result.columns ∨
          column ∈ rest.columns → row column = row' column := by
        intro column hc
        refine h column ?_
        simp only [Condition.columns, List.mem_append]
        rcases hc with hc | hc | hc
        · exact .inl (.inl hc)
        · exact .inl (.inr hc)
        · exact .inr hc
      simp only [Condition.eval, htest fun column hc => hall column (.inl hc),
        hresult fun column hc => hall column (.inr (.inl hc)),
        hrest fun column hc => hall column (.inr (.inr hc))]
  | always => rfl

@[simp] theorem and3_some (a b : Bool) : Condition.and3 (some a) (some b) = some (a && b) := by
  cases a <;> cases b <;> rfl

@[simp] theorem or3_some (a b : Bool) : Condition.or3 (some a) (some b) = some (a || b) := by
  cases a <;> cases b <;> rfl

/-! ### When a condition is true -/

section True

variable {row : Row C} {name : C} {texts : List String} {left right test result rest : Condition C}

@[simp] theorem eval_always : Condition.always.eval row = some true := rfl

@[simp] theorem eval_isNull : (Condition.isNull name).eval row = some true ↔ row name = .null := by
  simp [Condition.eval]

@[simp] theorem eval_isNotNull :
    (Condition.isNotNull name).eval row = some true ↔ row name ≠ .null := by
  simp [Condition.eval]

@[simp] theorem eval_isIn :
    (Condition.isIn name texts).eval row = some true ↔ ∃ s ∈ texts, row name = .text s := by
  simp only [Condition.eval]
  cases row name with
  | null | integer | blob => simp
  | text s => simp

@[simp] theorem eval_and : (Condition.and left right).eval row = some true ↔
    left.eval row = some true ∧ right.eval row = some true := by
  simp only [Condition.eval]
  rcases left.eval row with _ | _ | _ <;> rcases right.eval row with _ | _ | _ <;>
    simp [Condition.and3]

@[simp] theorem eval_or : (Condition.or left right).eval row = some true ↔
    left.eval row = some true ∨ right.eval row = some true := by
  simp only [Condition.eval]
  rcases left.eval row with _ | _ | _ <;> rcases right.eval row with _ | _ | _ <;>
    simp [Condition.or3]

@[simp] theorem eval_caseWhen : (Condition.caseWhen test result rest).eval row = some true ↔
    (test.eval row = some true ∧ result.eval row = some true) ∨
      (test.eval row ≠ some true ∧ rest.eval row = some true) := by
  simp only [Condition.eval]
  by_cases htest : test.eval row = some true
  · simp [htest]
  · simp [htest]

end True

section Engine

variable [DecidableEq T] [DecidableEq C] [DecidableEq I]

namespace Relation

def hasColumn (r : Relation C) (column : C) : Bool := r.columns.any (·.name = column)

def addColumn (r : Relation C) (column : Column C) : Relation C :=
  { r with
    columns := r.columns ++ [column]
    rows := r.rows.map fun row => Function.update row column.name column.default }

/-- The row an `INSERT` of these values makes. -/
def newRow (r : Relation C) (values : List (C × Value)) : Row C := fun name =>
  match r.columns.find? (·.name = name) with
  | none => .null
  | some column => (values.lookup name).getD column.default

/-- The row meets every `NOT NULL` and violates no `CHECK`. -/
def accepts (r : Relation C) (row : Row C) : Bool :=
  r.columns.all (fun column => !column.notNull || row column.name != .null) &&
    r.checks.all fun check => check.eval row != some false

/-- Null keys are all different. -/
def sameKey (r : Relation C) (row row' : Row C) : Bool :=
  row r.primaryKey != .null && row r.primaryKey == row' r.primaryKey

end Relation

/-- Two rows that a unique index cannot both have. -/
def Index.clashes (index : Index T C) (row row' : Row C) : Bool :=
  index.unique &&
    index.condition.all (fun c => c.eval row == some true && c.eval row' == some true) &&
    index.columns.all fun column => row column != .null && row column == row' column

namespace Database

def empty : Database T C I where
  tables _ := none
  indexes := []

def setTable (db : Database T C I) (t : T) (r : Option (Relation C)) : Database T C I :=
  { db with tables := Function.update db.tables t r }

/-- The row is another one's double under a key of the table. -/
def doubles (db : Database T C I) (t : T) (r : Relation C) (row : Row C) : Bool :=
  r.rows.any fun old => r.sameKey row old ||
    db.indexes.any fun index => index.2.table = t && index.2.clashes row old

def insertRow (db : Database T C I) (t : T) (row : Row C) :
    Except (SqlError T C I) (Database T C I) :=
  match db.tables t with
  | none => .error (.noSuchTable t)
  | some r =>
      if r.accepts row then
        if db.doubles t r row then .error (.uniqueFailed t)
        else .ok (db.setTable t (some { r with rows := r.rows ++ [row] }))
      else .error (.constraintFailed t)

end Database

/-! ## Statements -/

def Statement.execute (db : Database T C I) :
    Statement T C I → Except (SqlError T C I) (Database T C I)
  | createTable ifNotExists t columns primaryKey checks =>
      match db.tables t with
      | some _ => if ifNotExists then .ok db else .error (.tableExists t)
      | none => .ok (db.setTable t (some { columns, primaryKey, checks, rows := [] }))
  | addColumn t column =>
      match db.tables t with
      | none => .error (.noSuchTable t)
      | some r =>
          if r.hasColumn column.name then .error (.duplicateColumn column.name)
          else if column.notNull && column.default == .null then
            .error (.notNullWithoutDefault column.name)
          else .ok (db.setTable t (some (r.addColumn column)))
  | createIndex ifNotExists name index =>
      match db.tables index.table with
      | none => .error (.noSuchTable index.table)
      | some r =>
          if db.indexes.any (·.1 = name) then
            if ifNotExists then .ok db else .error (.indexExists name)
          else if index.columns.all r.hasColumn then
            if r.rows.Pairwise fun row row' => index.clashes row row' = false then
              .ok { db with indexes := db.indexes ++ [(name, index)] }
            else .error (.uniqueFailed index.table)
          else .error .noSuchColumn
  | insert orIgnore t values =>
      match db.tables t with
      | none => .error (.noSuchTable t)
      | some r =>
          if values.all fun value => r.hasColumn value.1 then
            match db.insertRow t (r.newRow values) with
            | .ok db' => .ok db'
            | .error err => if orIgnore then .ok db else .error err
          else .error .noSuchColumn
  | insertSelect t columns source =>
      match db.tables t, db.tables source with
      | some r, some r' =>
          if columns.all r.hasColumn && columns.all r'.hasColumn then
            r'.rows.foldlM (fun db row =>
              db.insertRow t (r.newRow (columns.map fun name => (name, row name)))) db
          else .error .noSuchColumn
      | none, _ => .error (.noSuchTable t)
      | _, none => .error (.noSuchTable source)
  | dropTable t =>
      match db.tables t with
      | none => .error (.noSuchTable t)
      | some _ =>
          .ok { tables := Function.update db.tables t none
                indexes := db.indexes.filter fun index => index.2.table ≠ t }
  | renameTable t newName =>
      match db.tables t, db.tables newName with
      | none, _ => .error (.noSuchTable t)
      | _, some _ => .error (.tableExists newName)
      | some r, none =>
          .ok { tables := Function.update (Function.update db.tables t none) newName (some r)
                indexes := db.indexes.map fun (name, index) =>
                  (name, if index.table = t then { index with table := newName } else index) }

/-- Statements one after the other, up to the first that fails. -/
def executeBatch (batch : List (Statement T C I)) (db : Database T C I) :
    Except (SqlError T C I) (Database T C I) :=
  batch.foldlM Statement.execute db

/-! ## Queries -/

/-- `SELECT COUNT(*) FROM t WHERE condition`. -/
def Database.countWhere (db : Database T C I) (t : T) (condition : Condition C) :
    Except (SqlError T C I) Nat :=
  match db.tables t with
  | none => .error (.noSuchTable t)
  | some r => .ok (r.rows.countP fun row => condition.eval row = some true)

/-- `SELECT MAX(column) FROM t`. -/
def Database.maxOf (db : Database T C I) (t : T) (column : C) : Except (SqlError T C I) Value :=
  match db.tables t with
  | none => .error (.noSuchTable t)
  | some r => .ok (maxValue (r.rows.map fun row => row column))

end Engine

/-! ## Rows and values -/

section Rows

variable [DecidableEq C]

theorem hasColumn_iff {r : Relation C} {name : C} :
    r.hasColumn name = true ↔ ∃ column ∈ r.columns, column.name = name := by
  simp [Relation.hasColumn]

/-- The row that copies every column of another one. -/
theorem newRow_copy {r : Relation C} {columns : List C} {row : Row C}
    (hall : ∀ column ∈ r.columns, column.name ∈ columns)
    (hwithin : ∀ name, r.hasColumn name = false → row name = .null) :
    r.newRow (columns.map fun name => (name, row name)) = row := by
  have hlookup : ∀ (columns : List C) (name : C), name ∈ columns →
      (columns.map fun name => (name, row name)).lookup name = some (row name) := by
    intro columns name hmem
    induction columns with
    | nil => exact absurd hmem (by simp)
    | cons column columns ih =>
        rw [List.map_cons, List.lookup_cons]
        by_cases heq : name = column
        · simp [heq]
        · rw [beq_false_of_ne heq]
          exact ih ((List.mem_cons.1 hmem).resolve_left heq)
  funext name
  unfold Relation.newRow
  cases hfind : r.columns.find? (·.name = name) with
  | none =>
      refine (hwithin name ?_).symm
      simpa [Relation.hasColumn] using hfind
  | some column =>
      have hname : column.name = name := by simpa using List.find?_some hfind
      have hmem : name ∈ columns := hname ▸ hall column (List.mem_of_find?_eq_some hfind)
      simp only [hlookup columns name hmem, Option.getD_some]

end Rows

/-- The greatest of some integers. -/
theorem maxValue_eq {values : List Value} {k : Int} (hmem : .integer k ∈ values)
    (hall : ∀ value ∈ values, ∃ n ≤ k, value = .integer n) : maxValue values = .integer k := by
  have hfold : ∀ (values : List Value) (m : Int), m ≤ k →
      (∀ value ∈ values, ∃ n ≤ k, value = .integer n) →
      (m = k ∨ .integer k ∈ values) → values.foldl Value.max (.integer m) = .integer k := by
    intro values
    induction values with
    | nil =>
        intro m _ _ hk
        rw [hk.resolve_right (by simp)]
        rfl
    | cons value values ih =>
        intro m hm hall hk
        obtain ⟨n, hn, rfl⟩ := hall value List.mem_cons_self
        have hrest := fun value hvalue => hall value (List.mem_cons_of_mem _ hvalue)
        show values.foldl Value.max (.integer (if m < n then n else m)) = _
        refine ih _ (by split <;> assumption) hrest ?_
        rcases hk with rfl | hk
        · rw [if_neg (Int.not_lt.2 hn)]
          exact .inl rfl
        · rcases List.mem_cons.1 hk with heq | hmem
          · obtain rfl : k = n := Value.integer.inj heq
            left
            split <;> omega
          · exact .inr hmem
  cases values with
  | nil => exact absurd hmem (by simp)
  | cons value values =>
      obtain ⟨n, hn, rfl⟩ := hall value List.mem_cons_self
      have hrest := fun value hvalue => hall value (List.mem_cons_of_mem _ hvalue)
      refine hfold values n hn hrest ?_
      rcases List.mem_cons.1 hmem with heq | hmem
      · exact .inl (Value.integer.inj heq).symm
      · exact .inr hmem

theorem accepts_iff {r : Relation C} {row : Row C} : r.accepts row = true ↔
    (∀ column ∈ r.columns, column.notNull = true → row column.name ≠ .null) ∧
      ∀ check ∈ r.checks, check.eval row ≠ some false := by
  unfold Relation.accepts
  rw [Bool.and_eq_true, List.all_eq_true, List.all_eq_true]
  constructor
  · rintro ⟨hcolumns, hchecks⟩
    refine ⟨fun column hcolumn hnotNull => ?_,
      fun check hcheck => by simpa using hchecks check hcheck⟩
    simpa [hnotNull] using hcolumns column hcolumn
  · rintro ⟨hcolumns, hchecks⟩
    refine ⟨fun column hcolumn => ?_, fun check hcheck => by simpa using hchecks check hcheck⟩
    cases hnotNull : column.notNull with
    | false => rfl
    | true => simpa using hcolumns column hcolumn hnotNull

/-! ## What statements do -/

theorem pairwise_of_not_unique {index : Index T C} (h : index.unique = false)
    (rows : List (Row C)) :
    rows.Pairwise fun row row' => index.clashes row row' = false := by
  refine List.pairwise_of_forall fun row row' => ?_
  unfold Index.clashes
  rw [h, Bool.false_and, Bool.false_and]

section Tables

variable [DecidableEq T] {db : Database T C I} {t : T} {r : Relation C}

@[simp] theorem setTable_self (db : Database T C I) (t : T) (r : Option (Relation C)) :
    (db.setTable t r).tables t = r := by
  simp [Database.setTable]

@[simp] theorem setTable_setTable (db : Database T C I) (t : T) (r r' : Option (Relation C)) :
    (db.setTable t r).setTable t r' = db.setTable t r' := by
  unfold Database.setTable
  rw [Function.update_idem]

theorem setTable_eq_self (h : db.tables t = some r) : db.setTable t (some r) = db := by
  unfold Database.setTable
  rw [← h, Function.update_eq_self]

theorem insertRow_ok {row : Row C} (h : db.tables t = some r) (haccepts : r.accepts row = true)
    (hdoubles : db.doubles t r row = false) :
    db.insertRow t row = .ok (db.setTable t (some { r with rows := r.rows ++ [row] })) := by
  unfold Database.insertRow
  rw [h]
  simp only [haccepts, hdoubles, if_true, Bool.false_eq_true, if_false]

/-- Rows with keys of their own go into a table without indexes, one after the other. -/
theorem insertRows_ok {rows : List (Row C)} (h : db.tables t = some r)
    (haccepts : ∀ row ∈ rows, r.accepts row = true)
    (hkeys : (r.rows ++ rows).Pairwise fun old row => row r.primaryKey ≠ old r.primaryKey)
    (hindexes : ∀ index ∈ db.indexes, index.2.table ≠ t) :
    rows.foldlM (fun db row => db.insertRow t row) db =
      .ok (db.setTable t (some { r with rows := r.rows ++ rows })) := by
  induction rows generalizing db r with
  | nil =>
      rw [List.append_nil, setTable_eq_self h]
      rfl
  | cons row rows ih =>
      have hdoubles : db.doubles t r row = false := by
        unfold Database.doubles
        rw [List.any_eq_false]
        intro old hold
        have hne := (List.pairwise_append.1 hkeys).2.2 old hold row List.mem_cons_self
        have hnone : (db.indexes.any fun index =>
            decide (index.2.table = t) && index.2.clashes row old) = false := by
          rw [List.any_eq_false]
          intro index hindex
          simp [hindexes index hindex]
        simp [hnone, Relation.sameKey, hne]
      rw [List.foldlM_cons, insertRow_ok h (haccepts row List.mem_cons_self) hdoubles]
      show rows.foldlM _ (db.setTable t _) = _
      have hrest := ih (setTable_self db t (some { r with rows := r.rows ++ [row] }))
        (fun row' hrow' => haccepts row' (List.mem_cons_of_mem _ hrow'))
        (by rwa [List.append_assoc]) hindexes
      rw [setTable_setTable, List.append_assoc] at hrest
      exact hrest

end Tables

section Execution

variable [DecidableEq T] [DecidableEq C] [DecidableEq I] {db db' : Database T C I} {t : T}
  {r : Relation C}

theorem executeBatch_nil : executeBatch [] db = .ok db := rfl

theorem executeBatch_cons {s : Statement T C I} {batch : List (Statement T C I)}
    (h : s.execute db = .ok db') : executeBatch (s :: batch) db = executeBatch batch db' := by
  unfold executeBatch
  rw [List.foldlM_cons, h]
  rfl

theorem execute_createTable {ifNotExists : Bool} {columns : List (Column C)} {primaryKey : C}
    {checks : List (Condition C)} (h : db.tables t = none) :
    (Statement.createTable ifNotExists t columns primaryKey checks).execute db =
      .ok (db.setTable t (some { columns, primaryKey, checks, rows := [] })) := by
  simp only [Statement.execute, h]

theorem execute_createTable_exists {columns : List (Column C)} {primaryKey : C}
    {checks : List (Condition C)} (h : db.tables t = some r) :
    (Statement.createTable true t columns primaryKey checks).execute db = .ok db := by
  simp only [Statement.execute, h, if_true]

theorem execute_addColumn {column : Column C} (h : db.tables t = some r)
    (hnew : r.hasColumn column.name = false)
    (hdefault : (column.notNull && column.default == .null) = false) :
    (Statement.addColumn t column).execute db =
      .ok (db.setTable t (some (r.addColumn column))) := by
  simp only [Statement.execute, h, hnew, hdefault, Bool.false_eq_true, if_false]

theorem execute_createIndex {ifNotExists : Bool} {name : I} {index : Index T C}
    (h : db.tables index.table = some r) (hnew : db.indexes.any (·.1 = name) = false)
    (hcolumns : index.columns.all r.hasColumn = true)
    (hrows : r.rows.Pairwise fun row row' => index.clashes row row' = false) :
    (Statement.createIndex ifNotExists name index).execute db =
      .ok { db with indexes := db.indexes ++ [(name, index)] } := by
  simp only [Statement.execute, h, hnew, hcolumns, hrows, Bool.false_eq_true, if_true, if_false]

theorem execute_createIndex_exists {name : I} {index : Index T C}
    (h : db.tables index.table = some r) (hold : db.indexes.any (·.1 = name) = true) :
    (Statement.createIndex true name index).execute db = .ok db := by
  simp only [Statement.execute, h, hold, if_true]

theorem execute_insert {orIgnore : Bool} {values : List (C × Value)} (h : db.tables t = some r)
    (hcolumns : (values.all fun value => r.hasColumn value.1) = true)
    (haccepts : r.accepts (r.newRow values) = true)
    (hdoubles : db.doubles t r (r.newRow values) = false) :
    (Statement.insert orIgnore t values).execute db =
      .ok (db.setTable t (some { r with rows := r.rows ++ [r.newRow values] })) := by
  simp only [Statement.execute, h, hcolumns, if_true, insertRow_ok h haccepts hdoubles]

/-- A row that is there already is ignored. -/
theorem execute_insert_ignored {values : List (C × Value)} (h : db.tables t = some r)
    (hcolumns : (values.all fun value => r.hasColumn value.1) = true)
    (hdoubles : db.doubles t r (r.newRow values) = true) :
    (Statement.insert true t values).execute db = .ok db := by
  simp only [Statement.execute, h, hcolumns, if_true]
  unfold Database.insertRow
  rw [h]
  simp only [hdoubles, if_true]
  split
  · next db' hrow => split at hrow <;> cases hrow
  · rfl

/-- Every column of a table copied into a new one. -/
theorem execute_insertSelect {columns : List C} {source : T} {r' : Relation C}
    (h : db.tables t = some r) (hempty : r.rows = []) (hsource : db.tables source = some r')
    (hcolumns : (columns.all r.hasColumn && columns.all r'.hasColumn) = true)
    (hall : ∀ column ∈ r.columns, column.name ∈ columns)
    (hwithin : ∀ row ∈ r'.rows, ∀ name, r.hasColumn name = false → row name = .null)
    (haccepts : ∀ row ∈ r'.rows, r.accepts row = true)
    (hkeys : r'.rows.Pairwise fun old row => row r.primaryKey ≠ old r.primaryKey)
    (hindexes : ∀ index ∈ db.indexes, index.2.table ≠ t) :
    (Statement.insertSelect t columns source).execute db =
      .ok (db.setTable t (some { r with rows := r'.rows })) := by
  have hcopy : (r'.rows.map fun row => r.newRow (columns.map fun name => (name, row name))) =
      r'.rows := by
    rw [List.map_congr_left (fun row hrow => newRow_copy hall (hwithin row hrow)), List.map_id']
  have hinsert := insertRows_ok h haccepts (by rwa [hempty]) hindexes
  rw [hempty, List.nil_append, ← hcopy, List.foldlM_map] at hinsert
  simp only [Statement.execute, h, hsource, hcolumns, if_true]
  rw [hinsert, hcopy]

theorem execute_dropTable (h : db.tables t = some r) :
    (Statement.dropTable t).execute db =
      .ok { tables := Function.update db.tables t none
            indexes := db.indexes.filter fun index => index.2.table ≠ t } := by
  simp only [Statement.execute, h]

theorem execute_renameTable {newName : T} (h : db.tables t = some r)
    (hnew : db.tables newName = none) :
    (Statement.renameTable t newName).execute db =
      .ok { tables := Function.update (Function.update db.tables t none) newName (some r)
            indexes := db.indexes.map fun (name, index) =>
              (name, if index.table = t then { index with table := newName } else index) } := by
  simp only [Statement.execute, h, hnew]

end Execution

/-! ## Well-formed tables -/

section Valid

variable [DecidableEq C]

/-- The table is well formed and so are its rows: of the declared types, within the
constraints, each under a key of its own. -/
structure Relation.Valid (r : Relation C) : Prop where
  keyed : r.hasColumn r.primaryKey = true
  reads : ∀ check ∈ r.checks, ∀ name ∈ check.columns, r.hasColumn name = true
  within : ∀ row ∈ r.rows, ∀ name, r.hasColumn name = false → row name = .null
  typed : ∀ row ∈ r.rows, ∀ column ∈ r.columns, column.type.admits (row column.name) = true
  accepted : ∀ row ∈ r.rows, r.accepts row = true
  keys : ∀ row ∈ r.rows, row r.primaryKey ≠ .null
  distinct : r.rows.Pairwise fun old row => row r.primaryKey ≠ old r.primaryKey

variable {r : Relation C} {column : Column C} {row : Row C}

theorem Relation.valid_of_no_rows (hrows : r.rows = []) (hkeyed : r.hasColumn r.primaryKey = true)
    (hreads : ∀ check ∈ r.checks, ∀ name ∈ check.columns, r.hasColumn name = true) :
    r.Valid where
  keyed := hkeyed
  reads := hreads
  within := by simp [hrows]
  typed := by simp [hrows]
  accepted := by simp [hrows]
  keys := by simp [hrows]
  distinct := by simp [hrows]

/-- Columns other than the new one keep their value. -/
theorem update_of_hasColumn {name : C} {value : Value} (hnew : r.hasColumn column.name = false)
    (hname : r.hasColumn name = true) : Function.update row column.name value name = row name := by
  apply Function.update_of_ne
  intro heq
  rw [heq, hnew] at hname
  exact absurd hname (by decide)

/-- The defaults of some columns, as adding them one after the other sets them. -/
def setDefaults (columns : List (Column C)) (row : Row C) : Row C :=
  columns.foldl (fun row column => Function.update row column.name column.default) row

theorem foldl_addColumn (r : Relation C) (columns : List (Column C)) :
    columns.foldl Relation.addColumn r =
      { r with columns := r.columns ++ columns, rows := r.rows.map (setDefaults columns) } := by
  induction columns generalizing r with
  | nil =>
      have hid : r.rows.map (setDefaults []) = r.rows := List.map_id' r.rows
      rw [hid, List.append_nil]
      rfl
  | cons column columns ih =>
      rw [List.foldl_cons, ih]
      simp only [Relation.addColumn, List.append_assoc, List.singleton_append, List.map_map]
      rfl

theorem setDefaults_of_not_mem {columns : List (Column C)} {name : C}
    (h : name ∉ columns.map Column.name) : setDefaults columns row name = row name := by
  induction columns generalizing row with
  | nil => rfl
  | cons column columns ih =>
      rw [List.map_cons, List.mem_cons, not_or] at h
      show setDefaults columns (Function.update row column.name column.default) name = _
      rw [ih h.2, Function.update_of_ne h.1]

theorem setDefaults_of_mem {columns : List (Column C)} (hnodup : (columns.map Column.name).Nodup)
    (h : column ∈ columns) : setDefaults columns row column.name = column.default := by
  induction columns generalizing row with
  | nil => exact absurd h (by simp)
  | cons first columns ih =>
      rw [List.map_cons, List.nodup_cons] at hnodup
      show setDefaults columns (Function.update row first.name first.default) column.name = _
      rcases List.mem_cons.1 h with rfl | h
      · rw [setDefaults_of_not_mem hnodup.1, Function.update_self]
      · exact ih hnodup.2 h

theorem hasColumn_addColumn {name : C} :
    (r.addColumn column).hasColumn name = (r.hasColumn name || decide (column.name = name)) := by
  simp [Relation.hasColumn, Relation.addColumn]

/-- The new column has its default in every row, and the others are as they were. -/
theorem Relation.Valid.addColumn (h : r.Valid) (hnew : r.hasColumn column.name = false)
    (hdefault : (column.notNull && column.default == .null) = false)
    (htype : column.type.admits column.default = true) : (r.addColumn column).Valid where
  keyed := by
    rw [hasColumn_addColumn]
    exact Bool.or_eq_true_iff.2 (.inl h.keyed)
  reads check hcheck name hname := by
    rw [hasColumn_addColumn]
    exact Bool.or_eq_true_iff.2 (.inl (h.reads check hcheck name hname))
  within row' hrow' name hname := by
    obtain ⟨row, hrow, rfl⟩ := List.mem_map.1 hrow'
    rw [hasColumn_addColumn, Bool.or_eq_false_iff, decide_eq_false_iff_not] at hname
    rw [Function.update_of_ne (Ne.symm hname.2)]
    exact h.within row hrow name hname.1
  typed row' hrow' column' hcolumn' := by
    obtain ⟨row, hrow, rfl⟩ := List.mem_map.1 hrow'
    rcases List.mem_append.1 hcolumn' with hold | hlast
    · rw [update_of_hasColumn hnew (hasColumn_iff.2 ⟨column', hold, rfl⟩)]
      exact h.typed row hrow column' hold
    · rw [List.mem_singleton.1 hlast, Function.update_self]
      exact htype
  accepted row' hrow' := by
    obtain ⟨row, hrow, rfl⟩ := List.mem_map.1 hrow'
    obtain ⟨hcolumns, hchecks⟩ := accepts_iff.1 (h.accepted row hrow)
    refine accepts_iff.2 ⟨fun column' hcolumn' hnotNull => ?_, fun check hcheck => ?_⟩
    · rcases List.mem_append.1 hcolumn' with hold | hlast
      · rw [update_of_hasColumn hnew (hasColumn_iff.2 ⟨column', hold, rfl⟩)]
        exact hcolumns column' hold hnotNull
      · obtain rfl := List.mem_singleton.1 hlast
        rw [Function.update_self]
        simpa [hnotNull] using hdefault
    · rw [eval_congr check fun name hname =>
        update_of_hasColumn hnew (h.reads check hcheck name hname)]
      exact hchecks check hcheck
  keys row' hrow' := by
    obtain ⟨row, hrow, rfl⟩ := List.mem_map.1 hrow'
    show Function.update row column.name column.default r.primaryKey ≠ .null
    rw [update_of_hasColumn hnew h.keyed]
    exact h.keys row hrow
  distinct := by
    refine List.pairwise_map.2 (h.distinct.imp fun {old row} hne => ?_)
    show Function.update row column.name column.default r.primaryKey ≠
      Function.update old column.name column.default r.primaryKey
    rw [update_of_hasColumn hnew h.keyed, update_of_hasColumn hnew h.keyed]
    exact hne

theorem Relation.Valid.addColumns (h : r.Valid) {columns : List (Column C)}
    (hnew : ∀ column ∈ columns, r.hasColumn column.name = false)
    (hnodup : (columns.map Column.name).Nodup)
    (hdefault : ∀ column ∈ columns, (column.notNull && column.default == .null) = false ∧
      column.type.admits column.default = true) : (columns.foldl Relation.addColumn r).Valid := by
  induction columns generalizing r with
  | nil => exact h
  | cons column columns ih =>
      rw [List.map_cons, List.nodup_cons] at hnodup
      obtain ⟨hnull, htype⟩ := hdefault column List.mem_cons_self
      refine ih (h.addColumn (hnew column List.mem_cons_self) hnull htype) ?_ hnodup.2
        fun other hother => hdefault other (List.mem_cons_of_mem _ hother)
      intro other hother
      rw [hasColumn_addColumn, hnew other (List.mem_cons_of_mem _ hother), Bool.false_or,
        decide_eq_false_iff_not]
      intro heq
      exact hnodup.1 (heq ▸ List.mem_map_of_mem hother)

/-- A row that can be inserted, of the declared types, under a new key. -/
theorem Relation.Valid.insert (h : r.Valid)
    (hwithin : ∀ name, r.hasColumn name = false → row name = .null)
    (htyped : ∀ column ∈ r.columns, column.type.admits (row column.name) = true)
    (haccepts : r.accepts row = true) (hkey : row r.primaryKey ≠ .null)
    (hfresh : ∀ old ∈ r.rows, row r.primaryKey ≠ old r.primaryKey) :
    Relation.Valid { r with rows := r.rows ++ [row] } where
  keyed := h.keyed
  reads := h.reads
  within row' hrow' := by
    rcases List.mem_append.1 hrow' with hold | hlast
    · exact h.within row' hold
    · exact List.mem_singleton.1 hlast ▸ hwithin
  typed row' hrow' := by
    rcases List.mem_append.1 hrow' with hold | hlast
    · exact h.typed row' hold
    · exact List.mem_singleton.1 hlast ▸ htyped
  accepted row' hrow' := by
    rcases List.mem_append.1 hrow' with hold | hlast
    · exact h.accepted row' hold
    · exact List.mem_singleton.1 hlast ▸ haccepts
  keys row' hrow' := by
    rcases List.mem_append.1 hrow' with hold | hlast
    · exact h.keys row' hold
    · exact List.mem_singleton.1 hlast ▸ hkey
  distinct := by
    refine List.pairwise_append.2 ⟨h.distinct, List.pairwise_singleton _ _, ?_⟩
    intro old hold row' hrow'
    exact List.mem_singleton.1 hrow' ▸ hfresh old hold

end Valid

end Zpay.Data.Sql
