import GuestRunner.Files.OsError
import GuestRunner.Settings.Defect
import GuestRunner.Text.Utf8
import GuestRunner.Value

/-!
# Failures

A `Failure` belongs to the runner: it says at which of its duties the runner failed and why. A
`Problem` is anything that ends an operation early: a failure, an error of the operating system that
is passed on as it is, or the refusal of a value that the operation cannot use. Where a failure was
worded by somebody else its cause is `stated`, and what it carries may be any value; null stands for
nothing.
-/

set_option autoImplicit false

namespace GuestRunner

inductive SettingsCause
  | stated (text : String)
  | defects (found : List Defect)
  | noModulePath
  deriving DecidableEq, Repr

inductive CompileCause
  | stated (text : String)
  | notBytes (typeName : String)
  | engineClosed
  | emptyModule
  | engine (text : String)
  deriving DecidableEq, Repr

inductive ScratchCause
  | stated (text : String)
  | create (error : OsError)
  | read (name : String) (error : OsError)
  | truncate (name : String) (error : OsError)
  | removeDirectory (path : String) (error : OsError)
  | removeFile (path : String) (error : OsError)
  | bind (text : String)
  deriving DecidableEq, Repr

inductive InstantiationCause
  | stated (text : String)
  | engineClosed
  | mount (text : String)
  | engine (text : String)
  | noStart
  deriving DecidableEq, Repr

inductive Failure
  | general (text : String)
  | settings (cause : SettingsCause)
  | compilation (cause : CompileCause)
  | closed (text : String)
  | scratch (cause : ScratchCause)
  | execution (text : String) (id : Value)
  | instantiation (cause : InstantiationCause) (id : Value)
  | trapped (text : String) (reason stderr id : Value)
  | nonZeroExit (code id : Value)
  | guestReported (stderr : Bytes) (code id : Value)
  | timedOut (deadline id : Value)
  deriving Repr

namespace Failure

def processorClosed : Failure := .closed "processor is closed"

def SettingsCause.message : SettingsCause → String
  | .stated text => text
  | .defects found =>
    "Invalid processor config: " ++ Defect.headline found.length "ProcessorConfig"
  | .noModulePath => "Processor config must set 'path' to a WASI module"

def CompileCause.message : CompileCause → String
  | .stated text => text
  | .notBytes typeName => "WASM module must be bytes, got " ++ typeName
  | .engineClosed => "backend is closed"
  | .emptyModule => "invalid WASM module: empty input"
  | .engine text => "invalid WASM module: " ++ text

def ScratchCause.message : ScratchCause → String
  | .stated text => text
  | .create e => "failed to create scratch directory: " ++ e.message
  | .read name e => "failed to read " ++ name ++ ": " ++ e.message
  | .truncate name e => "failed to truncate " ++ name ++ ": " ++ e.message
  | .removeDirectory path e => "failed to remove scratch directory " ++ path ++ ": " ++ e.message
  | .removeFile path e => "failed to remove scratch file " ++ path ++ ": " ++ e.message
  | .bind text => "failed to bind guest output streams: " ++ text

def InstantiationCause.message : InstantiationCause → String
  | .stated text => text
  | .engineClosed => "backend is closed"
  | .mount text => "failed to preopen read-only mount: " ++ text
  | .engine text => "failed to create wasmtime instance: " ++ text
  | .noStart => "module does not export a _start function"

def guestText (stderr : Bytes) : String := Text.Utf8.decode stderr

def message : Failure → String
  | .general text => text
  | .settings cause => SettingsCause.message cause
  | .compilation cause => CompileCause.message cause
  | .closed text => text
  | .scratch cause => ScratchCause.message cause
  | .execution text _ => text
  | .instantiation cause _ => InstantiationCause.message cause
  | .trapped text .. => text
  | .nonZeroExit code _ => "exit_code: " ++ code.plain
  | .guestReported stderr .. => "wasi stderr: " ++ guestText stderr
  | .timedOut deadline _ => "invocation exceeded " ++ deadline.plain ++ "s deadline"

def kind? : Failure → Option FailureKind
  | .instantiation .. => some .notInstantiated
  | .trapped .. => some .trapped
  | .nonZeroExit .. => some .nonZeroExit
  | .guestReported .. => some .guestReported
  | .timedOut .. => some .timedOut
  | _ => none

def id : Failure → Value
  | .execution _ id | .instantiation _ id | .trapped _ _ _ id | .nonZeroExit _ id
  | .guestReported _ _ id | .timedOut _ id => id
  | _ => .null

def exitCode : Failure → Value
  | .nonZeroExit code _ | .guestReported _ code _ => code
  | _ => .null

def trapReason : Failure → Value
  | .trapped _ reason _ _ => reason
  | _ => .null

def deadline : Failure → Value
  | .timedOut deadline _ => deadline
  | _ => .null

def typeName : Failure → String
  | .general _ => "WasiProcessorError"
  | .settings _ => "ProcessorConfigError"
  | .compilation _ => "CompilationError"
  | .closed _ => "ProcessorClosedError"
  | .scratch _ => "ScratchIOError"
  | .execution .. => "ExecutionError"
  | .instantiation .. => "InstantiationFailedError"
  | .trapped .. => "TrappedError"
  | .nonZeroExit .. => "NonZeroExitError"
  | .guestReported .. => "GuestReportedError"
  | .timedOut .. => "InvocationTimeoutError"

def isExecution : Failure → Bool
  | .execution .. | .instantiation .. | .trapped .. | .nonZeroExit .. | .guestReported ..
  | .timedOut .. => true
  | _ => false

def typeNames (f : Failure) : List String :=
  f.typeName ::
    (if f.isExecution && f.typeName != "ExecutionError" then ["ExecutionError"] else []) ++
    (if f.typeName != "WasiProcessorError" then ["WasiProcessorError"] else [])

end Failure

inductive Cause
  | os (error : OsError)
  | engine
  deriving DecidableEq, Repr

def Failure.cause? : Failure → Option Cause
  | .compilation (.engine _) | .instantiation (.engine _) _ | .instantiation (.mount _) _
  | .scratch (.bind _) => some .engine
  | .scratch (.create e) | .scratch (.read _ e) | .scratch (.truncate _ e)
  | .scratch (.removeDirectory _ e) | .scratch (.removeFile _ e) => some (.os e)
  | _ => none

inductive Refusal
  | noBytes (typeName : String)
  | notModuleBytes
  | noDigest
  | noCall (typeName : String)
  | notAnInteger (typeName : String)
  | noLength (typeName : String)
  | noBytesLike
  | noItem
  | noIndex (typeName : String)
  | noPath (typeName : String)
  | pathOfBytes
  | noMapping (operation typeName : String)
  | noUnion (typeName : String)
  | noOrder (typeName : String)
  | noJoin (typeName : String)
  | noKey (typeName : String)
  | namelessArgument
  | repeatedArgument (operation name : String)
  | unexpectedArgument (operation name : String)
  | missingArguments (operation : String) (names : List String)
  | tooManyArguments (operation : String) (least most given namedOnly : Nat)
  | noNamedArguments (operation : String)
  | negativeCount
  | countTooLarge
  | numberTooLarge
  | integerTooLong (digits : Nat)
  | unwritableInteger
  | byteOutOfRange
  | linkLoop (path : String)
  | notAMember (value : Value) (choice : Choice)
  | unknownEngine (value : Value)
  | unknownCapture (value : Value)
  | levelNotInteger
  | fewPlaceholders
  | manyPlaceholders
  | unknownLevel (level : Value)
  | reservedField (name : String)
  | fixedAttribute
  | unknownAttribute (typeName name : String)
  | malformedDocument
  | undecodableDocument
  | unencodableText (text : String)
  | defectiveResult (found : List Defect)
  | tooDeep
  deriving Repr

inductive RefusalClass
  | type
  | value
  | key
  | attribute
  | document
  | decoding
  | encoding
  | overflow
  | index
  | validation
  | recursion
  | running
  deriving DecidableEq, Repr

namespace Refusal

def group : Refusal → RefusalClass
  | .noBytes _ | .notModuleBytes | .noDigest | .noCall _ | .notAnInteger _ | .noLength _
  | .noBytesLike | .noIndex _ | .noPath _ | .pathOfBytes | .noMapping .. | .noUnion _ | .noOrder _
  | .noJoin _ | .noKey _ | .levelNotInteger | .fewPlaceholders | .manyPlaceholders
  | .namelessArgument | .repeatedArgument .. | .unexpectedArgument .. | .missingArguments ..
  | .tooManyArguments .. | .noNamedArguments _ => .type
  | .negativeCount | .byteOutOfRange | .integerTooLong _ | .unwritableInteger | .notAMember ..
  | .unknownEngine _ | .unknownCapture _ => .value
  | .countTooLarge | .numberTooLarge => .overflow
  | .unknownLevel _ | .reservedField _ => .key
  | .fixedAttribute | .unknownAttribute .. => .attribute
  | .malformedDocument => .document
  | .undecodableDocument => .decoding
  | .unencodableText _ => .encoding
  | .defectiveResult _ => .validation
  | .noItem => .index
  | .tooDeep => .recursion
  | .linkLoop _ => .running

def quotedNames : List String → String
  | [] => ""
  | [name] => Text.Quoted.text name
  | [first, last] => Text.Quoted.text first ++ " and " ++ Text.Quoted.text last
  | names => ", ".intercalate (names.dropLast.map Text.Quoted.text) ++ ", and " ++
      Text.Quoted.text (names.getLastD "")

def counted (n : Nat) (noun : String) : String :=
  toString n ++ " " ++ noun ++ if n = 1 then "" else "s"

def noEncoding (text : String) : String :=
  let (start, count) := Text.Surrogate.firstRun text
  let found :=
    if count = 1 then
      let half := (text.toList.drop start).take 1
      "character '" ++ String.ofList (half.flatMap Text.Surrogate.shownHalf) ++ "' in position " ++
        toString start
    else "characters in position " ++ toString start ++ "-" ++ toString (start + count - 1)
  "'utf-8' codec can't encode " ++ found ++ ": surrogates not allowed"

def message : Refusal → String
  | .noBytes typeName => "cannot convert " ++ Text.Quoted.text typeName ++ " object to bytes"
  | .notModuleBytes => "expected wasm bytes"
  | .noDigest => "Strings must be encoded before hashing"
  | .noCall typeName => Text.Quoted.text typeName ++ " object is not callable"
  | .notAnInteger typeName =>
    Text.Quoted.text typeName ++ " object cannot be interpreted as an integer"
  | .noLength typeName => "object of type " ++ Text.Quoted.text typeName ++ " has no len()"
  | .noBytesLike => "a bytes-like object is required, not 'str'"
  | .noItem => "tuple index out of range"
  | .noIndex typeName => "tuple indices must be integers or slices, not " ++ typeName
  | .noPath typeName => "expected str, bytes or os.PathLike object, not " ++ typeName
  | .pathOfBytes =>
    "argument should be a str object or an os.PathLike object returning str, not <class 'bytes'>"
  | .noMapping operation typeName =>
    operation ++ "() argument after ** must be a mapping, not " ++ typeName
  | .noUnion typeName =>
    "unsupported operand type(s) for |: 'dict' and " ++ Text.Quoted.text typeName
  | .noOrder typeName =>
    "'<=' not supported between instances of " ++ Text.Quoted.text typeName ++ " and 'int'"
  | .noJoin typeName => "can only concatenate str (not \"" ++ typeName ++ "\") to str"
  | .noKey typeName => "unhashable type: " ++ Text.Quoted.text typeName
  | .levelNotInteger => "level must be an integer"
  | .fewPlaceholders => "not enough arguments for format string"
  | .manyPlaceholders => "not all arguments converted during string formatting"
  | .namelessArgument => "keywords must be strings"
  | .repeatedArgument operation name =>
    operation ++ "() got multiple values for argument " ++ Text.Quoted.text name
  | .unexpectedArgument operation name =>
    operation ++ "() got an unexpected keyword argument " ++ Text.Quoted.text name
  | .missingArguments operation names =>
    operation ++ "() missing " ++ counted names.length "required positional argument" ++ ": " ++
      quotedNames names
  | .tooManyArguments operation least most given namedOnly =>
    operation ++ "() takes " ++
      (if least = most then counted most "positional argument"
        else "from " ++ toString least ++ " to " ++ toString most ++ " positional arguments") ++
      " but " ++
      (if namedOnly = 0 then toString given
        else counted given "positional argument" ++ " (and " ++
          counted namedOnly "keyword-only argument" ++ ")") ++
      (if given = 1 ∧ namedOnly = 0 then " was given" else " were given")
  | .noNamedArguments operation => operation ++ "() takes no keyword arguments"
  | .negativeCount => "negative count"
  | .countTooLarge => "cannot fit 'int' into an index-sized integer"
  | .numberTooLarge => "int too large to convert to float"
  | .integerTooLong digits =>
    "Exceeds the limit (4300 digits) for integer string conversion: value has " ++
      toString digits ++ " digits; use sys.set_int_max_str_digits() to increase the limit"
  | .unwritableInteger =>
    "Exceeds the limit (4300 digits) for integer string conversion; " ++
      "use sys.set_int_max_str_digits() to increase the limit"
  | .byteOutOfRange => "bytes must be in range(0, 256)"
  | .linkLoop path => "Symlink loop from " ++ Text.Quoted.text path
  | .notAMember value choice => value.shown ++ " is not a valid " ++ choice.name
  | .unknownEngine value => "Unsupported backend type: " ++ value.plain
  | .unknownCapture value => "Unsupported capture strategy: " ++ value.plain
  | .unknownLevel level => level.shown
  | .reservedField name =>
    Text.Quoted.text ("Attempt to overwrite " ++ Text.Quoted.text name ++ " in LogRecord")
  | .fixedAttribute => "CompiledModule is immutable"
  | .unknownAttribute typeName name =>
    Text.Quoted.text typeName ++ " object has no attribute " ++ Text.Quoted.text name
  | .malformedDocument | .undecodableDocument => ""
  | .unencodableText text => noEncoding text
  | .defectiveResult found => Defect.headline found.length "InvocationResult"
  | .tooDeep => "maximum recursion depth exceeded"

end Refusal

def Value.pathText : Value → Except Refusal String
  | v@(.text _) | v@(.brokenText _) | v@(.path _) | v@(.capture _) | v@(.engine _) => .ok v.plain
  | .bytes .fixed _ => .error .pathOfBytes
  | v => .error (.noPath v.typeName)

def Choice.member (choice : Choice) (v : Value) : Except Refusal String :=
  match v.text?.filter choice.labels.contains with
  | some label => .ok label
  | none => .error (.notAMember v choice)

inductive Problem
  | failure (f : Failure)
  | os (e : OsError)
  | refusal (r : Refusal)
  deriving Repr

def Problem.ofScratch (cause : OsError → ScratchCause) : OsError → Problem
  | .nulInPath => .os .nulInPath
  | e => .failure (.scratch (cause e))

def Problem.message : Problem → String
  | .failure f => f.message
  | .os e => e.message
  | .refusal r => r.message

end GuestRunner
