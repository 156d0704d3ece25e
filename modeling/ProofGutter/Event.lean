import ProofGutter.Diagnostic

/-!
# Events

What the verifier tells its client.
-/

namespace ProofGutter

/-- How far the verifier is with the program before it verifies it. -/
inductive Stage where
  | parsing
  | parsingFailed
  | resolutionStarted
  | resolutionFailed
  | compilationSucceeded
  | preparingVerification
  | verificationStarted
  | verificationFailed
  | verificationSucceeded
  /-- One that this client does not know. -/
  | unknown
  deriving DecidableEq

namespace Stage

/-- The name of a stage. -/
def name : Stage → String
  | .parsing => "Parsing"
  | .parsingFailed => "ParsingFailed"
  | .resolutionStarted => "ResolutionStarted"
  | .resolutionFailed => "ResolutionFailed"
  | .compilationSucceeded => "CompilationSucceeded"
  | .preparingVerification => "PreparingVerification"
  | .verificationStarted => "VerificationStarted"
  | .verificationFailed => "VerificationFailed"
  | .verificationSucceeded => "VerificationSucceeded"
  | .unknown => "Unknown"

/-- The stages that have a name of their own. -/
def known : List Stage :=
  [.parsing, .parsingFailed, .resolutionStarted, .resolutionFailed, .compilationSucceeded,
    .preparingVerification, .verificationStarted, .verificationFailed, .verificationSucceeded]

/-- The stage with a name. -/
def ofName (name : String) : Stage := (known.find? fun stage => stage.name = name).getD .unknown

end Stage

/-- Why the verifier is gone. -/
inductive StopReason where
  /-- It ended its output. -/
  | exited
  /-- Its output could not be understood. -/
  | failed (message : String)
  deriving DecidableEq

/-- Something that the verifier tells. -/
inductive Event where
  /-- The state of the verification of a document. -/
  | snapshot (snapshot : Snapshot)
  /-- The verification of a document starts. -/
  | started (uri : String)
  /-- The verification of a document is complete. -/
  | completed (uri : String) (verified : Bool)
  /-- How far the verifier is with a document. -/
  | compilation (uri : String) (stage : Stage) (message : Option String)
  /-- The statements of a document that exist for the proof only. -/
  | ghosts (uri : String) (ranges : List TextRange)
  /-- The version of the verifier. -/
  | version (version : String)
  /-- The document that is being verified. -/
  | activeDocument (uri : String)
  /-- How many errors there are. -/
  | errorCount (count : Nat)
  /-- Nothing more will come. -/
  | stopped (reason : StopReason)
  deriving DecidableEq

end ProofGutter
