import Mathlib.Data.List.Perm.Basic
import Mathlib.Data.List.Sort

/-!
# Prepared SELECT statements

The texts `SELECT … FROM … WHERE … AND … ORDER BY … DESC LIMIT …` with numbered parameters, and what
SQLite answers to them: the rows that meet all conditions, newest first, up to the limit. Rows of
equal rank come in the order in which the database happens to visit them. A text outside of this
fragment is an error here.
-/

namespace PhoneBridge.Library.Select

/-! ## Values -/

inductive StorageClass
  | integer
  | text
  | blob
  deriving DecidableEq, Repr

/-- A stored value or a bound one. -/
inductive SqlValue
  | null
  | integer (n : Int64)
  | text (s : String)
  | blob (bytes : List UInt8)
  deriving DecidableEq, Repr

namespace SqlValue

def ofOption {α : Type*} (f : α → SqlValue) (value : Option α) : SqlValue := value.elim null f

def ofBool (b : Bool) : SqlValue := integer (if b then 1 else 0)

/-- A value fits every class when it is `NULL`. -/
def HasClass (cls : StorageClass) : SqlValue → Prop
  | null => True
  | integer _ => cls = .integer
  | text _ => cls = .text
  | blob _ => cls = .blob

instance (cls : StorageClass) : DecidablePred (HasClass cls)
  | null => inferInstanceAs (Decidable True)
  | integer _ => inferInstanceAs (Decidable (cls = .integer))
  | text _ => inferInstanceAs (Decidable (cls = .text))
  | blob _ => inferInstanceAs (Decidable (cls = .blob))

/-- The operator `=`; it never holds of `NULL`. -/
def equals (a b : SqlValue) : Bool := a ≠ null && a = b

@[simp]
theorem equals_text (s t : String) : equals (text s) (text t) = decide (s = t) := by
  simp [equals]

@[simp]
theorem equals_blob (bytes bytes' : List UInt8) :
    equals (blob bytes) (blob bytes') = decide (bytes = bytes') := by
  simp [equals]

@[simp]
theorem equals_ofBool_zero (b : Bool) : equals (ofBool b) (integer 0) = !b := by
  cases b <;> decide

/-- The order in which values are sorted: `NULL`, integers, texts, blobs. -/
def le : SqlValue → SqlValue → Bool
  | null, _ => true
  | integer _, null => false
  | integer n, integer m => n ≤ m
  | integer _, _ => true
  | text _, null | text _, integer _ => false
  | text s, text t => s ≤ t
  | text _, blob _ => true
  | blob bytes, blob bytes' => bytes ≤ bytes'
  | blob _, _ => false

end SqlValue

/-! ## Texts -/

/-- `?1` or `0`. -/
inductive Operand
  | param (number : Nat)
  | literal (n : Int64)
  deriving DecidableEq, Repr

/-- A statement of the fragment. -/
structure Query where
  columns : List String
  table : String
  conditions : List (String × Operand)
  orderBy : String
  limit : Operand
  deriving DecidableEq, Repr

/-- The words of a text; commas and equality signs are words of their own. -/
def words (acc : List Char) : List Char → List String
  | [] => flush acc
  | c :: cs =>
    if c = ' ' then flush acc ++ words [] cs
    else if c = ',' ∨ c = '=' then flush acc ++ String.ofList [c] :: words [] cs
    else words (c :: acc) cs
where
  flush (acc : List Char) : List String := if acc = [] then [] else [String.ofList acc.reverse]

def decimal (digits : List Char) : Option Nat :=
  if digits ≠ [] ∧ digits.all Char.isDigit = true then
    some (digits.foldl (fun n c ↦ n * 10 + (c.toNat - '0'.toNat)) 0)
  else none

def parseOperand (word : String) : Option Operand :=
  match word.toList with
  | '?' :: digits => (decimal digits).map .param
  | digits => (decimal digits).map fun n ↦ .literal (.ofNat n)

def parseColumns : List String → Option (List String × List String)
  | column :: "," :: rest => (parseColumns rest).map fun (columns, rest) ↦ (column :: columns, rest)
  | column :: rest => some ([column], rest)
  | [] => none

def parseConditions : List String → Option (List (String × Operand) × List String)
  | column :: "=" :: word :: "AND" :: rest => do
    let operand ← parseOperand word
    let (conditions, rest) ← parseConditions rest
    return ((column, operand) :: conditions, rest)
  | column :: "=" :: word :: rest => do
    let operand ← parseOperand word
    return ([(column, operand)], rest)
  | _ => none

def parseWhere : List String → Option (List (String × Operand) × List String)
  | "WHERE" :: rest => parseConditions rest
  | rest => some ([], rest)

def parseWords : List String → Option Query
  | "SELECT" :: rest => do
    let (columns, rest) ← parseColumns rest
    match rest with
    | "FROM" :: table :: rest =>
      let (conditions, rest) ← parseWhere rest
      match rest with
      | ["ORDER", "BY", orderBy, "DESC", "LIMIT", word] =>
        let limit ← parseOperand word
        return { columns, table, conditions, orderBy, limit }
      | _ => none
    | _ => none
  | _ => none

/-- The statement that a text denotes. -/
def parse (sql : String) : Option Query := parseWords (words [] sql.toList)

/-- Evaluating a text in three parts goes by its characters. -/
theorem parse_append (front middle back : List Char) :
    parse (String.ofList front ++ String.ofList middle ++ String.ofList back) =
      parseWords (words [] (front ++ middle ++ back)) := by
  rw [parse, String.toList_append, String.toList_append, String.toList_ofList,
    String.toList_ofList, String.toList_ofList]

/-! ## Execution -/

/-- A table as a statement sees it. -/
structure Relation (ρ : Type*) where
  name : String
  columns : List (String × StorageClass)
  value : ρ → String → SqlValue

/-- Why a statement is not executed. -/
inductive SelectError
  | malformed
  | noSuchTable
  | noSuchColumn
  | mixedClasses
  | datatypeMismatch
  | columnNotFound
  deriving DecidableEq, Repr

/-- A parameter without a bound value is `NULL`. -/
def Operand.value (bound : List SqlValue) : Operand → SqlValue
  | .param number => if number = 0 then .null else bound.getD (number - 1) .null
  | .literal n => .integer n

/-- The numbers of the parameters of an operand. -/
def Operand.parameters : Operand → List Nat
  | .param number => [number]
  | .literal _ => []

/-- The numbers of the parameters in the order of the text. -/
def Query.parameters (q : Query) : List Nat :=
  q.conditions.flatMap (fun condition ↦ condition.2.parameters) ++ q.limit.parameters

section Fetch

variable {ρ : Type*} (rel : Relation ρ) (bound : List SqlValue)

/-- Does a row meet all conditions? -/
def Query.accepts (q : Query) (row : ρ) : Bool :=
  q.conditions.all fun (column, operand) ↦ (rel.value row column).equals (operand.value bound)

/-- A column is only compared with a value of its own class: SQLite converts no operand then. -/
def Query.Comparable (q : Query) : Prop :=
  ∀ condition ∈ q.conditions, ∃ column ∈ rel.columns, column.1 = condition.1 ∧
    (condition.2.value bound).HasClass column.2

instance (q : Query) : Decidable (q.Comparable rel bound) := by
  unfold Query.Comparable
  infer_instance

/-- The first rows up to a limit; a negative limit is none. -/
def upTo {α : Type*} (limit : Int64) (rows : List α) : List α :=
  if limit < 0 then rows else rows.take limit.toInt.toNat

/-- Prepare a text, bind the values, and fetch all rows by their columns. -/
def fetchAll (visit : List ρ) (sql : String) : Except SelectError (List ρ) :=
  match parse sql with
  | none => .error .malformed
  | some q =>
    let known := rel.columns.map Prod.fst
    if q.table ≠ rel.name then .error .noSuchTable
    else if ¬ ∀ column ∈ q.orderBy :: q.columns ++ q.conditions.map Prod.fst, column ∈ known then
      .error .noSuchColumn
    else if ¬ q.Comparable rel bound then .error .mixedClasses
    else
      match q.limit.value bound with
      | .integer limit =>
        if ¬ ∀ column ∈ known, column ∈ q.columns then .error .columnNotFound
        else .ok (upTo limit ((visit.filter (q.accepts rel bound)).mergeSort fun a b ↦
          (rel.value b q.orderBy).le (rel.value a q.orderBy)))
      | _ => .error .datatypeMismatch

/-- The bound values are those that the text asks for: as many, each under its own number in the
order of the text, of the class of the column that it is compared with, and an integer as the
limit. -/
structure Query.Binds (q : Query) : Prop where
  numbered : q.parameters = List.range' 1 bound.length
  table : q.table = rel.name
  known : ∀ column ∈ q.orderBy :: q.columns ++ q.conditions.map Prod.fst,
    column ∈ rel.columns.map Prod.fst
  fetched : ∀ column ∈ rel.columns.map Prod.fst, column ∈ q.columns
  comparable : q.Comparable rel bound
  limit : ∃ n, q.limit.value bound = .integer n

variable {rel bound}

theorem fetchAll_eq {q : Query} {sql : String} {limit : Int64} (hparse : parse sql = some q)
    (hbinds : q.Binds rel bound) (hlimit : q.limit.value bound = .integer limit)
    (visit : List ρ) : fetchAll rel bound visit sql =
      .ok (upTo limit ((visit.filter (q.accepts rel bound)).mergeSort fun a b ↦
        (rel.value b q.orderBy).le (rel.value a q.orderBy))) := by
  have hknown := hbinds.known
  have hfetched := hbinds.fetched
  have hcomparable := hbinds.comparable
  simp only [fetchAll, hparse, hbinds.table, ne_eq, not_true_eq_false, reduceIte, hlimit]
  rw [if_neg (not_not.mpr hknown), if_neg (not_not.mpr hcomparable),
    if_neg (not_not.mpr hfetched)]

end Fetch

/-! ## The generic listing -/

section Newest

variable {ρ : Type*}

/-- The order of a listing. -/
def newestFirst (time : ρ → Int64) (a b : ρ) : Bool := time b ≤ time a

/-- Filter, sort the newest first, and take. -/
def newest (wanted : ρ → Bool) (time : ρ → Int64) (limit : Nat) (visit : List ρ) : List ρ :=
  ((visit.filter wanted).mergeSort (newestFirst time)).take limit

/-- The wanted rows, newest first, cut to the first `limit`. -/
def Lists (rows : List ρ) (wanted : ρ → Bool) (time : ρ → Int64) (limit : Nat)
    (result : List ρ) : Prop :=
  ∃ sorted : List ρ, sorted.Perm (rows.filter wanted) ∧
    sorted.Pairwise (fun a b ↦ time b ≤ time a) ∧ result = sorted.take limit

variable {wanted : ρ → Bool} {time : ρ → Int64} {limit : Nat} {rows visit : List ρ}

theorem newestFirst_trans {a b c : ρ} (hab : newestFirst time a b = true)
    (hbc : newestFirst time b c = true) : newestFirst time a c = true := by
  rw [newestFirst, decide_eq_true_eq] at hab hbc ⊢
  exact Int64.le_trans hbc hab

theorem newestFirst_total (a b : ρ) : (newestFirst time a b || newestFirst time b a) = true := by
  rw [Bool.or_eq_true, newestFirst, newestFirst, decide_eq_true_eq, decide_eq_true_eq]
  exact Int64.le_total _ _

theorem lists_newest (hvisit : visit.Perm rows) :
    Lists rows wanted time limit (newest wanted time limit visit) := by
  have hsorted : ((visit.filter wanted).mergeSort (newestFirst time)).Pairwise
      fun a b ↦ newestFirst time a b = true :=
    List.pairwise_mergeSort (fun _ _ _ ↦ newestFirst_trans) newestFirst_total _
  refine ⟨(visit.filter wanted).mergeSort (newestFirst time), ?_, ?_, rfl⟩
  · exact (List.mergeSort_perm _ _).trans (hvisit.filter wanted)
  · exact hsorted.imp fun hab ↦ of_decide_eq_true hab

/-- A statement with a limit is the generic listing by the integer column that it is ordered by. -/
theorem fetchAll_newest {rel : Relation ρ} {bound : List SqlValue} {q : Query} {sql : String}
    {limit : Int64} (hparse : parse sql = some q) (hbinds : q.Binds rel bound)
    (hlimit : q.limit.value bound = .integer limit) (hpositive : 0 ≤ limit)
    (hwanted : ∀ row, q.accepts rel bound row = wanted row)
    (htime : ∀ row, rel.value row q.orderBy = .integer (time row)) (visit : List ρ) :
    fetchAll rel bound visit sql = .ok (newest wanted time limit.toInt.toNat visit) := by
  have haccepts : q.accepts rel bound = wanted := funext hwanted
  have horder : (fun a b ↦ (rel.value b q.orderBy).le (rel.value a q.orderBy)) =
      newestFirst time := by
    funext a b
    rw [htime, htime]
    rfl
  rw [fetchAll_eq hparse hbinds hlimit, haccepts, horder, upTo,
    if_neg (Int64.not_lt.mpr hpositive), newest]

/-- A statement is the generic listing: its text and its bound values line up, and its answer is the
wanted rows, newest first, cut to the limit. -/
structure IsListing (rel : Relation ρ) (sql : String) (bound : List SqlValue) (rows visit : List ρ)
    (wanted : ρ → Bool) (time : ρ → Int64) (limit : Nat)
    (answer : Except SelectError (List ρ)) : Prop where
  binds : ∃ q, parse sql = some q ∧ q.Binds rel bound
  generic : answer = .ok (newest wanted time limit visit)
  lists : Lists rows wanted time limit (newest wanted time limit visit)

end Newest

end PhoneBridge.Library.Select
