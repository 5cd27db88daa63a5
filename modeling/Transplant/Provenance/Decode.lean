import Transplant.Json.Decode
import Transplant.Provenance

/-!
The contents of a header as a JSON document.
-/

namespace Transplant

open Json.Decoder in
/-- What is not known may be left out, or be `null`. -/
def Provenance.record : Json.Decoder.Record Provenance Provenance where
  wanted := "struct OriginInfo"
  fields := [
    field "origin" (optional text) fun p t => { p with origin := t },
    field "version" (optional text) fun p t => { p with version := t },
    field "date" (optional text) fun p t => { p with date := t }]
  start := ⟨none, none, none⟩
  finish := .ok
  mayStopEarly := true

/-- Reads what a header says. -/
def Provenance.ofJson (t : Text) : Except Json.DecodeError Provenance :=
  Json.Decoder.document (Json.Decoder.record Provenance.record) t

end Transplant
