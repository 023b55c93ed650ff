import TaggedPage.Pipeline

/-! # Builders

A builder gathers what a pipeline is built from: a configuration, options and a provider of
font files. Each may be set more than once and in any order, and what is set last counts. A
configuration file is read when it is set. Whether the settings fit together shows when
the pipeline is built.
-/

namespace TaggedPage

/-- What a pipeline is to be built from. -/
structure Builder (m : Type → Type) where
  file : Option Config.File := none
  options : Config.Options := {}
  /-- Where font files come from instead of the disk. -/
  provider : Option (Provider m) := none

namespace Builder

/-- One setting of a builder. -/
inductive Step (m : Type → Type) where
  /-- Reads a configuration file. -/
  | configFile (path : RawText)
  /-- Takes the configuration from a text. -/
  | configSource (text : String)
  | options (options : Config.Options)
  | provider (provider : Provider m)

variable {m : Type → Type} [Monad m] (host : Host m)

/-- The builder after one more setting. -/
def step (b : Builder m) : Step m → ExceptT Failure m (Builder m)
  | .configFile path => do
    let file ← Config.File.load host.disk path
    return { b with file := some file }
  | .configSource text =>
    match Config.File.ofJson text with
    | .error cause => throw (.json cause)
    | .ok file => return { b with file := some file }
  | .options options => return { b with options }
  | .provider provider => return { b with provider := some provider }

/-- The builder with nothing but these settings, made one after the other. -/
def run (steps : List (Step m)) : ExceptT Failure m (Builder m) := steps.foldlM (step host) {}

def build (b : Builder m) : ExceptT Failure m Pipeline :=
  Pipeline.build host b.options b.file b.provider

end Builder

end TaggedPage
