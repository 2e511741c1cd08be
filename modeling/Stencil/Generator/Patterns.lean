/-!
# The built-in patterns

Each pattern is the text of an artifact, or of a part of one, with placeholders for what differs
from candidate to candidate.  Their version is bound in every descriptor, so that an artifact
made from an older version of a pattern never counts as up to date.
-/

namespace Stencil.Patterns

/-- The version of the patterns. -/
def version : String := "4"

/-- A text made of lines, each with a line end behind it. -/
def lines : List String → String
  | [] => ""
  | line :: rest => line ++ "\n" ++ lines rest

/-- A type with a good result and an error. -/
def resultHolder : String :=
  lines
    ["{Header}{Attributes}{Visibility}enum {Name}{Generics} \x7b",
      "    Ok({Ok}),",
      "    Err({Err}),",
      "\x7d",
      "",
      "impl{Generics} {Name}{Generics} \x7b",
      "    pub fn is_ok(&self) -> bool \x7b",
      "        matches!(self, Self::Ok(_))",
      "    \x7d",
      "",
      "    pub fn is_err(&self) -> bool \x7b",
      "        matches!(self, Self::Err(_))",
      "    \x7d",
      "",
      "    pub fn ok(self) -> Option<{Ok}> \x7b",
      "        match self \x7b",
      "            Self::Ok(value) => Some(value),",
      "            Self::Err(_) => None,",
      "        \x7d",
      "    \x7d",
      "",
      "    pub fn err(self) -> Option<{Err}> \x7b",
      "        match self \x7b",
      "            Self::Ok(_) => None,",
      "            Self::Err(error) => Some(error),",
      "        \x7d",
      "    \x7d",
      "",
      "    pub fn into_result(self) -> Result<{Ok}, {Err}> \x7b",
      "        self.into()",
      "    \x7d",
      "\x7d",
      "",
      "impl{Generics} From<Result<{Ok}, {Err}>> for {Name}{Generics} \x7b",
      "    fn from(result: Result<{Ok}, {Err}>) -> Self \x7b",
      "        match result \x7b",
      "            Ok(value) => Self::Ok(value),",
      "            Err(error) => Self::Err(error),",
      "        \x7d",
      "    \x7d",
      "\x7d",
      "",
      "impl{Generics} From<{Name}{Generics}> for Result<{Ok}, {Err}> \x7b",
      "    fn from(holder: {Name}{Generics}) -> Self \x7b",
      "        match holder \x7b",
      "            {Name}::Ok(value) => Ok(value),",
      "            {Name}::Err(error) => Err(error),",
      "        \x7d",
      "    \x7d",
      "\x7d"]

/-- A type with a value or none. -/
def optionHolder : String :=
  lines
    ["{Header}{Attributes}{Visibility}enum {Name}{Generics} \x7b",
      "    Some({Value}),",
      "    None,",
      "\x7d",
      "",
      "impl{Generics} Default for {Name}{Generics} \x7b",
      "    fn default() -> Self \x7b",
      "        Self::None",
      "    \x7d",
      "\x7d",
      "",
      "impl{Generics} {Name}{Generics} \x7b",
      "    pub fn is_some(&self) -> bool \x7b",
      "        matches!(self, Self::Some(_))",
      "    \x7d",
      "",
      "    pub fn is_none(&self) -> bool \x7b",
      "        matches!(self, Self::None)",
      "    \x7d",
      "",
      "    pub fn value(&self) -> Option<&{Value}> \x7b",
      "        match self \x7b",
      "            Self::Some(value) => Some(value),",
      "            Self::None => None,",
      "        \x7d",
      "    \x7d",
      "",
      "    pub fn into_option(self) -> Option<{Value}> \x7b",
      "        self.into()",
      "    \x7d",
      "\x7d",
      "",
      "impl{Generics} From<Option<{Value}>> for {Name}{Generics} \x7b",
      "    fn from(option: Option<{Value}>) -> Self \x7b",
      "        match option \x7b",
      "            Some(value) => Self::Some(value),",
      "            None => Self::None,",
      "        \x7d",
      "    \x7d",
      "\x7d",
      "",
      "impl{Generics} From<{Name}{Generics}> for Option<{Value}> \x7b",
      "    fn from(holder: {Name}{Generics}) -> Self \x7b",
      "        match holder \x7b",
      "            {Name}::Some(value) => Some(value),",
      "            {Name}::None => None,",
      "        \x7d",
      "    \x7d",
      "\x7d"]

/-- A type with several numbered cases. -/
def multiResultHolder : String :=
  lines
    ["{Header}{Attributes}{Visibility}enum {Name}{Generics} \x7b",
      "{Variants}\x7d",
      "",
      "impl{Generics} {Name}{Generics} \x7b",
      "    pub const CASES: usize = {Count};",
      "",
      "    pub fn index(&self) -> usize \x7b",
      "        match self \x7b",
      "{IndexArms}        \x7d",
      "    \x7d",
      "\x7d"] ++ "{FromImpls}"

/-- One case of a type with several cases. -/
def caseVariant : String :=
  lines
    ["    Case{Index}({Type}),"]

/-- The line that gives the number of a case. -/
def caseIndexArm : String :=
  lines
    ["            Self::Case{Index}(_) => {Index},"]

/-- The conversion into one case. -/
def caseConversion : String :=
  lines
    ["",
      "impl{Generics} From<{Type}> for {Name}{Generics} \x7b",
      "    fn from(value: {Type}) -> Self \x7b",
      "        Self::Case{Index}(value)",
      "    \x7d",
      "\x7d"]

/-- A type that wraps another one. -/
def valueObject : String :=
  lines
    ["{Header}{Attributes}{Visibility}struct {Name}{Generics}({Inner});",
      "",
      "impl{Generics} {Name}{Generics} \x7b",
      "    pub fn new(value: {Inner}) -> Self \x7b",
      "        Self(value)",
      "    \x7d",
      "",
      "    pub fn value(&self) -> &{Inner} \x7b",
      "        &self.0",
      "    \x7d",
      "",
      "    pub fn into_inner(self) -> {Inner} \x7b",
      "        self.0",
      "    \x7d",
      "\x7d",
      "",
      "impl{Generics} From<{Inner}> for {Name}{Generics} \x7b",
      "    fn from(value: {Inner}) -> Self \x7b",
      "        Self(value)",
      "    \x7d",
      "\x7d"] ++ "{CommonImpls}"

/-- A type that wraps another one and validates its values first. -/
def validatableValueObject : String :=
  lines
    ["{Header}{Attributes}{Visibility}struct {Name}{Generics}({Inner});",
      "",
      "impl{Generics} {Name}{Generics} \x7b",
      "    /// Validates `value` with `Self::validate` before wrapping it.",
      "    pub fn new(value: {Inner}) -> Result<Self, String> \x7b",
      "        Self::validate(&value)?;",
      "        Ok(Self(value))",
      "    \x7d",
      "",
      "    pub fn value(&self) -> &{Inner} \x7b",
      "        &self.0",
      "    \x7d",
      "",
      "    pub fn into_inner(self) -> {Inner} \x7b",
      "        self.0",
      "    \x7d",
      "\x7d",
      "",
      "impl{Generics} TryFrom<{Inner}> for {Name}{Generics} \x7b",
      "    type Error = String;",
      "",
      "    fn try_from(value: {Inner}) -> Result<Self, Self::Error> \x7b",
      "        Self::new(value)",
      "    \x7d",
      "\x7d"] ++ "{CommonImpls}"

/-- What all value objects have in common. -/
def valueObjectCommon : String :=
  lines
    ["",
      "impl{Generics} AsRef<{Inner}> for {Name}{Generics} \x7b",
      "    fn as_ref(&self) -> &{Inner} \x7b",
      "        &self.0",
      "    \x7d",
      "\x7d"]

/-- How a value object is displayed, if the wrapped type can be. -/
def valueObjectDisplay : String :=
  lines
    ["",
      "impl{Generics} std::fmt::Display for {Name}{Generics}",
      "where",
      "    {Inner}: std::fmt::Display,",
      "\x7b",
      "    fn fmt(&self, f: &mut std::fmt::Formatter<'_>) -> std::fmt::Result \x7b",
      "        std::fmt::Display::fmt(&self.0, f)",
      "    \x7d",
      "\x7d"]

/-- A table of number sequences, with the type of its rows. -/
def sequenceCollector : String :=
  lines
    ["{Header}#[derive(Debug, Clone, Copy, PartialEq, Eq)]",
      "{Visibility}struct {Name}Sequence \x7b",
      "    pub name: &'static str,",
      "    pub schema: Option<&'static str>,",
      "    pub start: i64,",
      "    pub increment: i64,",
      "\x7d",
      "",
      "impl{Generics} {Name}{Generics} \x7b",
      "    /// Database sequences declared on `{Name}`.",
      "    pub const SEQUENCES: &'static [{Name}Sequence] = &[",
      "{Entries}    ];",
      "",
      "    pub fn sequences() -> &'static [{Name}Sequence] \x7b",
      "        Self::SEQUENCES",
      "    \x7d",
      "\x7d"]

/-- One row of the table of sequences. -/
def sequenceEntry : String :=
  lines
    ["        {Name}Sequence \x7b name: \"{SequenceName}\", schema: {Schema}, start: {Start}, " ++
      "increment: {Increment} \x7d,"]

end Stencil.Patterns
