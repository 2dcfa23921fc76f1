/-
  File:      InputMask/Preset/Builtin.lean
  Subject:   The presets that are always there.
-/
import InputMask.Preset
namespace InputMask.Preset

/-- A preset of its own name, description, mask and tags. -/
def simple (name description mask : String) (tags : List String) : Preset :=
  { blank with
    name := name.toList
    description := some description.toList
    mask := mask.toList
    tags := some (tags.map String.toList) }

/-- The presets that are always there. -/
def builtin : List Preset :=
  [simple "us_phone" "US phone number with area code" "(000) 000-0000" ["phone", "us"],
   simple "us_ssn" "US Social Security Number" "000-00-0000" ["pii", "us"],
   simple "us_zip" "US ZIP+4 code" "00000-9999" ["postal", "us"],
   simple "uk_postcode" "UK postcode, uppercased" ">LA?? 0LL" ["postal", "uk"],
   simple "ca_postal" "Canadian postal code, uppercased" ">L0L 0L0" ["postal", "ca"],
   simple "date_iso" "ISO 8601 calendar date" "0000-00-00" ["date"],
   simple "date_us" "US calendar date" "00/00/0000" ["date", "us"],
   simple "time_24h" "24 hour clock time" "00:00" ["time"],
   { simple "credit_card" "16 digit card number" "0000 0000 0000 0000" ["pii", "payment"] with
     prompt := some ' ' },
   { simple "ipv4" "Dotted quad, space padded octets" "990.990.990.990" ["network"] with
     prompt := some ' '
     keepLiterals := some true },
   simple "product_key" "Uppercase alphanumeric licence key" ">AAAAA-AAAAA-AAAAA" ["license"]]

/-- The presets that are always there have no problem. -/
theorem problems_builtin : problems builtin = [] := by decide +kernel

end InputMask.Preset
