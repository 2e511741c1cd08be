import Stencil.Generator.Basic
import Stencil.Pipeline.Report

/-!
# Pipelines

A pipeline holds generators under distinct names, the options that they share, and the artifacts
that its last pass left behind, with the digest of the options that these were made under.
-/

namespace Stencil

/-- How passes are run. -/
structure Config where
  /-- Whether work may be spread over several threads; no answer depends on it. -/
  parallel : Bool := true
  /-- Whether the patterns of made artifacts are checked for open placeholders. -/
  validateCoverage : Bool := true
deriving DecidableEq

/-- The inspection text of a configuration. -/
def Config.inspect (c : Config) : String :=
  Text.record "PipelineConfig"
    [("parallel", Text.truth c.parallel), ("validate_coverage", Text.truth c.validateCoverage)]

/-- Generators, and the artifacts that they made last. -/
structure Pipeline where
  /-- The generators in the order in which they run. -/
  generators : List Generator
  options : Options
  config : Config
  /-- The artifacts of the last pass. -/
  cache : Table ArtifactKey Artifact
  /-- The digest of the options of the last pass. -/
  cachedUnder : Option Digest
  /-- The number of passes that went through.  There is no greatest number here, where a program
  counts in a word of 64 bits. -/
  passes : Nat
  distinct : (generators.map Generator.name).Nodup

namespace Pipeline

/-- A pipeline without generators. -/
def empty (o : Options) (config : Config) : Pipeline where
  generators := []
  options := o
  config := config
  cache := Table.empty
  cachedUnder := none
  passes := 0
  distinct := List.nodup_nil

/-- The names of the generators in the order in which they run. -/
def names (p : Pipeline) : List String := p.generators.map Generator.name

/-- Adds a generator behind the others, unless its name is taken. -/
def add (p : Pipeline) (g : Generator) : Except Conflict Pipeline :=
  if h : g.name ∈ p.names then .error (.repeatedGenerator g.name)
  else
    .ok { p with
      generators := p.generators ++ [g]
      distinct := by
        rw [List.map_append, List.map_singleton, List.nodup_append]
        refine ⟨p.distinct, by simp, fun a ha b hb => ?_⟩
        rw [List.mem_singleton.1 hb]
        exact fun hab => h (hab ▸ ha) }

/-- Sets the options of the passes to come. -/
def configure (p : Pipeline) (o : Options) : Pipeline := { p with options := o }

/-- Forgets all kept artifacts, and the options that they were made under. -/
def forget (p : Pipeline) : Pipeline := { p with cache := Table.empty, cachedUnder := none }

/-- The kept artifact of a key. -/
def kept? (p : Pipeline) (key : ArtifactKey) : Option Artifact := p.cache.get? key

/-- The outputs for all kept artifacts, in increasing order of their keys. -/
def outputs (p : Pipeline) : List Output :=
  (p.cache.entries.mergeSort fun a b => a.1.le b.1).map fun entry =>
    Output.ofArtifact entry.1 entry.2

/-- The inspection text of a pipeline. -/
def inspect (p : Pipeline) : String :=
  Text.record "IncrementalGenerator"
    [("generators", Text.bracketed (p.names.map Text.quote)), ("options", p.options.inspect),
      ("config", p.config.inspect), ("cached", toString p.cache.size),
      ("passes", toString p.passes)]

end Pipeline

end Stencil
