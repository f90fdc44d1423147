import Scorebook.Calendar.Instant
import Scorebook.Json.Decoding

/-!
# Dates and instants as JSON
-/

namespace Scorebook

def Date.toJson (d : Date) : Json := .str d.iso

def Date.ofJson? : Json.Decoder Date
  | .str s => (Calendar.readHyphenated s.toList).toOption
  | _ => none

def Instant.toJson (t : Instant) : Json := .str t.zuluText

def Instant.ofJson? : Json.Decoder Instant
  | .str s => (Instant.readLenient s.toList).toOption
  | _ => none

end Scorebook
