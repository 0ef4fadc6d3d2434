/-!
# Status errors

An error at run time carries a code, a status, a reason and a message, and the errors that caused
it. A cause is a status error again, or some other error with a text and perhaps a source. Two
status errors are the same error if they have the same code and reason, and joining causes to an
error never changes which error it is.
-/

namespace ServiceContract.Failure

/-- What a status error says of itself. -/
structure StatusHead where
  code : Int
  status : Nat
  reason : String
  message : String
  deriving DecidableEq, Repr, Inhabited

/-- An error with what it was caused by. -/
inductive ErrorTree where
  | status (head : StatusHead) (causes : List ErrorTree)
  | other (text : String) (source : Option ErrorTree)
  deriving Repr, Inhabited

/-- A status error with its causes. -/
structure StatusError where
  head : StatusHead
  causes : List ErrorTree := []
  deriving Repr, Inhabited

namespace StatusHead

/-- Whether two heads are of the same error. -/
def same (a b : StatusHead) : Bool :=
  a.code == b.code && a.reason == b.reason

/-- The words for a head. -/
def words (h : StatusHead) : String :=
  "error: code = " ++ toString h.code ++ " status = " ++ toString h.status ++ " reason = " ++
    h.reason ++ " message = " ++ h.message

end StatusHead

namespace ErrorTree

mutual

/-- The words for an error: its own, then those of its causes. -/
def words : ErrorTree → String
  | .status head causes => head.words ++ wordsOfCauses causes
  | .other text _ => text

/-- The words for causes, each after a semicolon. -/
def wordsOfCauses : List ErrorTree → String
  | [] => ""
  | c :: cs => "; " ++ words c ++ wordsOfCauses cs

end

/-- The error that is named as the source: of a status error the first cause. -/
def source? : ErrorTree → Option ErrorTree
  | .status _ causes => causes.head?
  | .other _ source => source

mutual

/-- Whether `target` is this error or somewhere among its causes. The search follows the sources
and, at each status error, looks into the later causes. -/
def hasCause (target : StatusHead) : ErrorTree → Bool
  | .status head causes =>
    head.same target || match causes with
      | [] => false
      | first :: later => anyHasCause target later || hasCause target first
  | .other _ none => false
  | .other _ (some source) => hasCause target source

/-- Whether `target` is somewhere in one of some errors. -/
def anyHasCause (target : StatusHead) : List ErrorTree → Bool
  | [] => false
  | t :: ts => hasCause target t || anyHasCause target ts

end

end ErrorTree

namespace StatusError

/-- A status error without causes. -/
def new (code : Int) (status : Nat) (reason message : String) : StatusError :=
  ⟨⟨code, status, reason, message⟩, []⟩

/-- The error as a cause of others. -/
def toTree (e : StatusError) : ErrorTree :=
  .status e.head e.causes

/-- The error with further causes. -/
def join (e : StatusError) (causes : List ErrorTree) : StatusError :=
  { e with causes := e.causes ++ causes }

/-- The error with further causes and another message. -/
def joinWithMessage (e : StatusError) (message : String) (causes : List ErrorTree) :
    StatusError :=
  { e.join causes with head := { e.head with message := message } }

/-- Whether two errors are the same error. -/
def is (e target : StatusError) : Bool :=
  e.head.same target.head

/-- The error that is named as the source. -/
def source? (e : StatusError) : Option ErrorTree :=
  e.toTree.source?

/-- The words for an error and its causes. -/
def words (e : StatusError) : String :=
  e.toTree.words

/-- Whether `target` is this error or among its causes at any depth. -/
def hasCause (e target : StatusError) : Bool :=
  e.toTree.hasCause target.head

end StatusError

end ServiceContract.Failure
