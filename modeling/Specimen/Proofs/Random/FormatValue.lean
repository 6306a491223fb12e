import Specimen.Proofs.Random.Text
import Specimen.Random.FormatValue

/-!
# Values of formats are drawn steadily

None of the formats has a loop of its own: each is a fixed number of picks, words
and counts, and is steady because these are.
-/

namespace Specimen.Draw

variable {σ ε : Type} [Source σ]

theorem steady_instant : Steady (instant : Draw σ ε Instant) :=
  (steady_countBetween 0 0x7FFF_FFFF).bind fun _ => steady_pure _

theorem steady_oneOf (items : List String) : Steady (oneOf items : Draw σ ε String) :=
  (steady_element items).bind fun _ => steady_pure _

theorem steady_mailAddress : Steady (mailAddress : Draw σ ε String) := by
  refine (steady_oneOf firstNames).bind fun name => ?_
  exact (steady_oneOf mailDomains).bind fun domain => steady_pure _

theorem steady_hostName : Steady (hostName : Draw σ ε String) := by
  refine (steady_oneOf hostDomains).bind fun domain => ?_
  exact steady_word.bind fun label => steady_pure _

theorem steady_link : Steady (link : Draw σ ε String) := by
  refine steady_hostName.bind fun host => ?_
  exact steady_word.bind fun page => steady_pure _

theorem steady_lowBits (count : Nat) : Steady (lowBits count : Draw σ ε Nat) :=
  steady_word32.bind fun _ => steady_pure _

theorem steady_dottedAddress : Steady (dottedAddress : Draw σ ε String) :=
  (steady_times (steady_lowBits 8) 4).bind fun _ => steady_pure _

theorem steady_groupedAddress : Steady (groupedAddress : Draw σ ε String) :=
  (steady_times (steady_lowBits 16) 8).bind fun _ => steady_pure _

theorem steady_identifier : Steady (identifier : Draw σ ε String) :=
  (steady_times (steady_lowBits 8) 16).bind fun _ => steady_pure _

theorem steady_formatValue (format : Format) : Steady (formatValue format : Draw σ ε String) := by
  cases format with
  | dateTime => exact steady_instant.bind fun _ => steady_pure _
  | date => exact steady_instant.bind fun _ => steady_pure _
  | time => exact steady_instant.bind fun _ => steady_pure _
  | email => exact steady_mailAddress
  | hostname => exact steady_hostName
  | ipv4 => exact steady_dottedAddress
  | ipv6 => exact steady_groupedAddress
  | uri => exact steady_link
  | uuid => exact steady_identifier

end Specimen.Draw
