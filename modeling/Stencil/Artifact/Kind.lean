/-!
# Kinds of artifacts

Each kind has a tag, which goes into the digests of artifacts, a name for reports, and an
inspection text.
-/

namespace Stencil

/-- The rule that an artifact is made by. -/
inductive Kind where
  | resultHolder
  | optionHolder
  | multiResultHolder
  | valueObject
  | validatableValueObject
  | sequenceCollector
deriving DecidableEq

namespace Kind

/-- The number that stands for a kind in digests. -/
def tag : Kind → UInt64
  | resultHolder => 1
  | optionHolder => 2
  | multiResultHolder => 3
  | valueObject => 4
  | validatableValueObject => 5
  | sequenceCollector => 6

/-- The name of a kind. -/
def name : Kind → String
  | resultHolder => "result holder"
  | optionHolder => "option holder"
  | multiResultHolder => "multi-result holder"
  | valueObject => "value object"
  | validatableValueObject => "validatable value object"
  | sequenceCollector => "sequence collector"

/-- The inspection text of a kind. -/
def inspect : Kind → String
  | resultHolder => "ResultHolder"
  | optionHolder => "OptionHolder"
  | multiResultHolder => "MultiResultHolder"
  | valueObject => "ValueObject(General)"
  | validatableValueObject => "ValueObject(Validatable)"
  | sequenceCollector => "SequenceCollector"

end Kind

end Stencil
