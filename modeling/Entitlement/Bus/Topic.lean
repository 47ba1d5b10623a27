/-
This file matches topics with patterns. Both are segments with dots between them; in a pattern
the segment `*` stands for any one segment and `#` for any number of them, also for none.
-/

import Entitlement.Text.Split

namespace Entitlement.Topic

/-- The list itself and what is left of it after each of its elements. -/
def suffixes : List String → List (List String)
  | [] => [[]]
  | segment :: rest => (segment :: rest) :: suffixes rest

/-- Whether the segments of a topic match the segments of a pattern. -/
def segmentsMatch : List String → List String → Bool
  | [], topic => topic.isEmpty
  | first :: pattern, topic =>
    if first = "#" then (suffixes topic).any (segmentsMatch pattern)
    else match topic with
      | [] => false
      | segment :: rest => (first == "*" || first == segment) && segmentsMatch pattern rest

/-- Whether a topic matches a pattern. -/
def isMatch (pattern topic : String) : Bool :=
  segmentsMatch (Text.split '.' pattern) (Text.split '.' topic)

end Entitlement.Topic
