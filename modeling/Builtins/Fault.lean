import Builtins.Resource.Kind
import Builtins.Value.Basic
import Builtins.Xml.Fault

/-!
# Faults of calls

Everything that can go wrong in a call, cause by cause.

* `FaultCode` is the category that callers act on.
* `Fault` is the cause, with what is needed to word it.
* `Fault.code`, `Fault.message` and `Fault.cause?` give category, wording and underlying fault.
* `Fault.withCause` replaces the underlying fault.
-/

namespace Builtins

/-- The category of a fault. -/
inductive FaultCode where
  | arityMismatch
  | argumentTypeMismatch
  | unknownFunction
  | duplicateFunction
  | invalidDescriptor
  | unknownHandle
  | typeMismatch
  | indexOutOfRange
  | fileNotFound
  | ioFailure
  | malformedDocument
  | unsupportedEncoding
  | undefinedVariable
  | readOnlyVariable
deriving DecidableEq, Repr

namespace FaultCode

def all : List FaultCode :=
  [arityMismatch, argumentTypeMismatch, unknownFunction, duplicateFunction, invalidDescriptor,
    unknownHandle, typeMismatch, indexOutOfRange, fileNotFound, ioFailure, malformedDocument,
    unsupportedEncoding, undefinedVariable, readOnlyVariable]

def name : FaultCode → String
  | arityMismatch => "ArityMismatch"
  | argumentTypeMismatch => "ArgumentTypeMismatch"
  | unknownFunction => "UnknownFunction"
  | duplicateFunction => "DuplicateFunction"
  | invalidDescriptor => "InvalidDescriptor"
  | unknownHandle => "UnknownHandle"
  | typeMismatch => "TypeMismatch"
  | indexOutOfRange => "IndexOutOfRange"
  | fileNotFound => "FileNotFound"
  | ioFailure => "IOFailure"
  | malformedDocument => "MalformedDocument"
  | unsupportedEncoding => "UnsupportedEncoding"
  | undefinedVariable => "UndefinedVariable"
  | readOnlyVariable => "ReadOnlyVariable"

end FaultCode

/-- Why the content of a file cannot be read. -/
inductive ReadFault where
  | absent
  | notADirectory
  | isADirectory
  | tooManyLinks
  | nameTooLong
  | invalidName
deriving DecidableEq, Repr

def ReadFault.message : ReadFault → String
  | absent => "No such file or directory (os error 2)"
  | notADirectory => "Not a directory (os error 20)"
  | isADirectory => "Is a directory (os error 21)"
  | tooManyLinks => "Too many levels of symbolic links (os error 40)"
  | nameTooLong => "File name too long (os error 36)"
  | invalidName => "file name contained an unexpected NUL byte"

/-- What a file is read as. -/
inductive FileRole where
  | xml
  | binary
deriving DecidableEq, Repr

def FileRole.name : FileRole → String
  | xml => "XML"
  | binary => "bin"

/-- Why a call fails. -/
inductive Fault where
  | unknownFunction (name : String)
  | wrongArity (name : String) (arity given : Nat)
  | wrongKinds (name : String) (given : List Kind) (accepted : String)
  | nameTaken (name : String)
  | noTuples (name : String)
  | tupleLength (name : String) (arity : Nat) (tuple : List Kind)
  | repeatedTuple (name : String) (tuple : List Kind)
  /-- The first failure to install a builtin, and the names of all that were not installed. -/
  | builtinsTaken (first : Fault) (names : List String)
  | unknownHandle (handle : String)
  | wrongResource (handle : String) (found : ResourceKind) (expected : List ResourceKind)
  | holdsNodeList (handle : String)
  | holdsNoNodeList (handle : String)
  | indexOutOfRange (index : Int64) (handle : String) (size : Nat)
  | fileNotFound (name : String)
  | unreadable (role : FileRole) (path : String) (reason : ReadFault)
  | malformed (reason : XmlFault) (path : String)
  | unsupportedEncoding (token : String)
  | wrongValue (expected : Kind) (found : Value)
  | undefinedVariable (key : String)
  | readOnlyVariable (key : String)
  /-- A fault with a wording of its own, and the wording of its cause if there is one. -/
  | stated (code : FaultCode) (message : String) (cause : Option String)
deriving DecidableEq

namespace Fault

def code : Fault → FaultCode
  | unknownFunction _ => .unknownFunction
  | wrongArity _ _ _ => .arityMismatch
  | wrongKinds _ _ _ => .argumentTypeMismatch
  | nameTaken _ => .duplicateFunction
  | noTuples _ => .invalidDescriptor
  | tupleLength _ _ _ => .invalidDescriptor
  | repeatedTuple _ _ => .invalidDescriptor
  | builtinsTaken first _ => first.code
  | unknownHandle _ => .unknownHandle
  | wrongResource _ _ _ => .typeMismatch
  | holdsNodeList _ => .typeMismatch
  | holdsNoNodeList _ => .typeMismatch
  | indexOutOfRange _ _ _ => .indexOutOfRange
  | fileNotFound _ => .fileNotFound
  | unreadable _ _ _ => .ioFailure
  | malformed _ _ => .malformedDocument
  | unsupportedEncoding _ => .unsupportedEncoding
  | wrongValue _ _ => .typeMismatch
  | undefinedVariable _ => .undefinedVariable
  | readOnlyVariable _ => .readOnlyVariable
  | stated code _ _ => code

def message : Fault → String
  | unknownFunction name => s!"unknown function '{name}'"
  | wrongArity name arity given =>
    s!"function '{name}' expects {arity} argument(s) but got {given}"
  | wrongKinds name given accepted =>
    s!"function '{name}' does not accept " ++ Kind.tuple given ++ s!"; allowed: {accepted}"
  | nameTaken name => s!"function '{name}' is already registered"
  | noTuples name => s!"function '{name}' declares no argument types"
  | tupleLength name arity tuple =>
    s!"function '{name}' has arity {arity} but argument tuple " ++ Kind.tuple tuple ++ " has " ++
      toString tuple.length ++ " entries"
  | repeatedTuple name tuple =>
    s!"function '{name}' declares argument tuple " ++ Kind.tuple tuple ++ " twice"
  | builtinsTaken _ names => "builtins not registered: " ++ String.intercalate ", " names
  | unknownHandle handle => s!"unknown resource handle '{handle}'"
  | wrongResource handle found expected =>
    s!"handle '{handle}' refers to a " ++ found.name ++ ", expected " ++
      String.intercalate " or " (expected.map ResourceKind.name)
  | holdsNodeList handle => s!"handle '{handle}' holds a node list"
  | holdsNoNodeList handle => s!"handle '{handle}' holds no node list"
  | indexOutOfRange index handle size =>
    "index " ++ toString index.toInt ++ s!" is out of range for list '{handle}' of size {size}"
  | fileNotFound name => s!"can't find file '{name}' in source folders"
  | unreadable role path reason =>
    "can't read " ++ role.name ++ s!" file '{path}': " ++ reason.message
  | malformed reason path => reason.message ++ s!" in '{path}'"
  | unsupportedEncoding token => s!"unsupported encode type [{token}]"
  | wrongValue expected found =>
    "expected " ++ expected.name ++ " value but found " ++ found.kind.name ++ " (" ++
      found.text ++ ")"
  | undefinedVariable key => s!"reading undefined environment record '{key}'"
  | readOnlyVariable key =>
    s!"illegal change of environment record '{key}', environment records are read-only"
  | stated _ message _ => message

/-- The wording of a fault with its category. -/
def report (f : Fault) : String := "error: " ++ f.message ++ " (" ++ f.code.name ++ ")"

/-- The wording of the fault that caused this one, if another one did. -/
def cause? : Fault → Option String
  | builtinsTaken first _ => some first.report
  | unreadable _ _ reason => some reason.message
  | malformed reason _ => reason.cause?
  | stated _ _ cause => cause
  | _ => none

/-- The same category and wording, with another cause or none. -/
def withCause (f : Fault) (cause : Option Fault) : Fault :=
  stated f.code f.message (cause.map report)

end Fault

namespace Value

def asInt : Value → Except Fault Int64
  | int i => .ok i
  | v => .error (.wrongValue .int v)

/-- The number of a floating-point value; integers are not converted. -/
def asFloat : Value → Except Fault Binary64
  | float x => .ok x
  | v => .error (.wrongValue .float v)

def asBoolean : Value → Except Fault Bool
  | boolean b => .ok b
  | v => .error (.wrongValue .boolean v)

end Value

end Builtins
