/-
This file matches names and paths against patterns with wildcards.
-/

import ContentMount.Path.Basic

namespace ContentMount.Glob

/-- Matches a name against a pattern. A star takes any run of characters, a question mark takes
one character, and any other character takes itself. -/
def matchesChars : List Char → List Char → Bool
  | [], [] => true
  | _ :: _, [] => false
  | [], p :: pattern => p == '*' && matchesChars [] pattern
  | c :: name, p :: pattern =>
    if p == '*' then matchesChars (c :: name) pattern || matchesChars name (p :: pattern)
    else (p == '?' || p == c) && matchesChars name pattern
  termination_by name pattern => name.length + pattern.length

/-- Matches a whole name against a whole pattern. -/
def matchesName (name pattern : String) : Bool :=
  matchesChars name.toList pattern.toList

/-- Matches segments against the segments of a pattern. Two stars take any number of segments,
and any other pattern takes one segment that it matches. -/
def matchesSegments : List String → List String → Bool
  | [], segments => segments.isEmpty
  | p :: pattern, [] => p == "**" && matchesSegments pattern []
  | p :: pattern, segment :: segments =>
    if p == "**" then
      matchesSegments pattern (segment :: segments) || matchesSegments (p :: pattern) segments
    else matchesName segment p && matchesSegments pattern segments
  termination_by pattern segments => pattern.length + segments.length

/-- The segments of a path pattern. Empty ones are left out. -/
def patternSegments (pattern : String) : List String :=
  (Path.pieces pattern).filter (· != "")

/-- The pattern matches the path or something above it. -/
def covers (pattern : String) (path : Path) : Bool :=
  (List.range (path.depth + 1)).any fun depth =>
    matchesSegments (patternSegments pattern) (path.take depth).segments

end ContentMount.Glob
