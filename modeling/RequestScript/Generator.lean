/-!
# Generators

A generator makes a value at each place where its name is used. Its name starts with a dollar
sign, and arguments follow it after colons.
-/

namespace RequestScript

/-- A kind of generated value. -/
inductive Generator where
  | timestamp
  | timestampMs
  | isoTimestamp
  | localTimestamp
  | date
  | uuid
  | guid
  | uuidV1
  | uuidV4
  | randomInt
  | randomFloat
  | randomString
  | randomHex
  | randomEmail
  | randomBoolean
  | enum
  | env
  deriving DecidableEq

namespace Generator

/-- All generators, in the order in which they are listed. -/
def all : List Generator :=
  [.timestamp, .timestampMs, .isoTimestamp, .localTimestamp, .date, .uuid, .guid, .uuidV1,
    .uuidV4, .randomInt, .randomFloat, .randomString, .randomHex, .randomEmail, .randomBoolean,
    .enum, .env]

/-- The name of a generator. -/
def name : Generator → String
  | .timestamp => "$timestamp"
  | .timestampMs => "$timestampMs"
  | .isoTimestamp => "$isoTimestamp"
  | .localTimestamp => "$localTimestamp"
  | .date => "$date"
  | .uuid => "$uuid"
  | .guid => "$guid"
  | .uuidV1 => "$uuidV1"
  | .uuidV4 => "$uuidV4"
  | .randomInt => "$randomInt"
  | .randomFloat => "$randomFloat"
  | .randomString => "$randomString"
  | .randomHex => "$randomHex"
  | .randomEmail => "$randomEmail"
  | .randomBoolean => "$randomBoolean"
  | .enum => "$enum"
  | .env => "$env"

/-- What a generator makes. -/
def description : Generator → String
  | .timestamp => "Unix epoch in seconds"
  | .timestampMs => "Unix epoch in milliseconds"
  | .isoTimestamp => "ISO 8601 UTC date/time"
  | .localTimestamp => "Local date/time"
  | .date =>
    "Formatted date, optional day offset (tokens: YYYY, MM, DD, HH, mm, ss, SSS, MMM, MMMM)"
  | .uuid => "UUID v4 (random)"
  | .guid => "Alias of $uuid"
  | .uuidV1 => "UUID v1 (timestamp based)"
  | .uuidV4 => "UUID v4 (random)"
  | .randomInt => "Random integer (default 0-1000)"
  | .randomFloat => "Random decimal (default 0-1, 2 decimals)"
  | .randomString => "Random alphanumeric string (default 16 chars)"
  | .randomHex => "Random hex string"
  | .randomEmail => "Random @rext.dev email"
  | .randomBoolean => "\"true\" or \"false\""
  | .enum => "Random pick from a list (\"quotes\" keep commas)"
  | .env => "Active environment name"

/-- A value that a generator might make. -/
def sample : Generator → String
  | .timestamp => "1740583516"
  | .timestampMs => "1740583516000"
  | .isoTimestamp => "2026-02-26T15:35:16.000Z"
  | .localTimestamp => "2026-02-26 11:35:16"
  | .date => "2026-02-26"
  | .uuid | .guid | .uuidV4 => "a1b2c3d4-e5f6-4a7b-8c9d-0e1f2a3b4c5d"
  | .uuidV1 => "6fa459ea-ee8a-1a3e-5714-e6cdd17ab37c"
  | .randomInt => "742"
  | .randomFloat => "0.73"
  | .randomString => "aB3xK9mP2qR7wT1s"
  | .randomHex => "a3f2b1c0"
  | .randomEmail => "user-a3f2b@rext.dev"
  | .randomBoolean => "true"
  | .enum => "pending"
  | .env => "production"

/-- How the arguments of a generator are written, with a place holder for each. -/
def snippet? : Generator → Option String
  | .date => some "$date:$\x7b1:YYYY-MM-DD\x7d"
  | .randomInt => some "$randomInt:$\x7b1:0\x7d:$\x7b2:1000\x7d"
  | .randomFloat => some "$randomFloat:$\x7b1:0\x7d:$\x7b2:1\x7d:$\x7b3:2\x7d"
  | .randomString => some "$randomString:$\x7b1:16\x7d"
  | .randomHex => some "$randomHex:$\x7b1:8\x7d"
  | .enum => some "$enum:$\x7b1:val1,val2,val3\x7d"
  | _ => none

/-- The generator with a name. -/
def ofName? (name : String) : Option Generator :=
  all.find? (·.name == name)

theorem mem_all (generator : Generator) : generator ∈ all := by
  cases generator <;> simp [all]

theorem ofName?_name (generator : Generator) : ofName? generator.name = some generator := by
  cases generator <;> rfl

end Generator

end RequestScript
