import Mathlib.Data.List.Nodup

/-!
# The supported releases

A configured release is an entry of a fixed table. Its entry names the protocol
number that clients must present and which of four layouts their login start has.
-/

namespace McServerNap

/-- What a login start carries after the name, and whether a client may arrive by
transfer. -/
inductive InitialProtocol where
  | noUuid
  | optionalUuid
  | requiredUuid
  | requiredUuidAndTransfer
  deriving DecidableEq, Repr

/-- `VersionProfile`, an entry of the catalogue. -/
structure VersionProfile where
  name : String
  protocol : Int32
  initialProtocol : InitialProtocol
  deriving DecidableEq, Repr

/-- `SUPPORTED_VERSIONS`, in release order. -/
def supportedVersions : List VersionProfile :=
  [
    ⟨"1.7.2", 4, .noUuid⟩,
    ⟨"1.7.3", 4, .noUuid⟩,
    ⟨"1.7.4", 4, .noUuid⟩,
    ⟨"1.7.5", 4, .noUuid⟩,
    ⟨"1.7.6", 5, .noUuid⟩,
    ⟨"1.7.7", 5, .noUuid⟩,
    ⟨"1.7.8", 5, .noUuid⟩,
    ⟨"1.7.9", 5, .noUuid⟩,
    ⟨"1.7.10", 5, .noUuid⟩,
    ⟨"1.8", 47, .noUuid⟩,
    ⟨"1.8.1", 47, .noUuid⟩,
    ⟨"1.8.2", 47, .noUuid⟩,
    ⟨"1.8.3", 47, .noUuid⟩,
    ⟨"1.8.4", 47, .noUuid⟩,
    ⟨"1.8.5", 47, .noUuid⟩,
    ⟨"1.8.6", 47, .noUuid⟩,
    ⟨"1.8.7", 47, .noUuid⟩,
    ⟨"1.8.8", 47, .noUuid⟩,
    ⟨"1.8.9", 47, .noUuid⟩,
    ⟨"1.9", 107, .noUuid⟩,
    ⟨"1.9.1", 108, .noUuid⟩,
    ⟨"1.9.2", 109, .noUuid⟩,
    ⟨"1.9.3", 110, .noUuid⟩,
    ⟨"1.9.4", 110, .noUuid⟩,
    ⟨"1.10", 210, .noUuid⟩,
    ⟨"1.10.1", 210, .noUuid⟩,
    ⟨"1.10.2", 210, .noUuid⟩,
    ⟨"1.11", 315, .noUuid⟩,
    ⟨"1.11.1", 316, .noUuid⟩,
    ⟨"1.11.2", 316, .noUuid⟩,
    ⟨"1.12", 335, .noUuid⟩,
    ⟨"1.12.1", 338, .noUuid⟩,
    ⟨"1.12.2", 340, .noUuid⟩,
    ⟨"1.13", 393, .noUuid⟩,
    ⟨"1.13.1", 401, .noUuid⟩,
    ⟨"1.13.2", 404, .noUuid⟩,
    ⟨"1.14", 477, .noUuid⟩,
    ⟨"1.14.1", 480, .noUuid⟩,
    ⟨"1.14.2", 485, .noUuid⟩,
    ⟨"1.14.3", 490, .noUuid⟩,
    ⟨"1.14.4", 498, .noUuid⟩,
    ⟨"1.15", 573, .noUuid⟩,
    ⟨"1.15.1", 575, .noUuid⟩,
    ⟨"1.15.2", 578, .noUuid⟩,
    ⟨"1.16", 735, .noUuid⟩,
    ⟨"1.16.1", 736, .noUuid⟩,
    ⟨"1.16.2", 751, .noUuid⟩,
    ⟨"1.16.3", 753, .noUuid⟩,
    ⟨"1.16.4", 754, .noUuid⟩,
    ⟨"1.16.5", 754, .noUuid⟩,
    ⟨"1.17", 755, .noUuid⟩,
    ⟨"1.17.1", 756, .noUuid⟩,
    ⟨"1.18", 757, .noUuid⟩,
    ⟨"1.18.1", 757, .noUuid⟩,
    ⟨"1.18.2", 758, .noUuid⟩,
    ⟨"1.19.3", 761, .optionalUuid⟩,
    ⟨"1.19.4", 762, .optionalUuid⟩,
    ⟨"1.20", 763, .optionalUuid⟩,
    ⟨"1.20.1", 763, .optionalUuid⟩,
    ⟨"1.20.2", 764, .requiredUuid⟩,
    ⟨"1.20.3", 765, .requiredUuid⟩,
    ⟨"1.20.4", 765, .requiredUuid⟩,
    ⟨"1.20.5", 766, .requiredUuidAndTransfer⟩,
    ⟨"1.20.6", 766, .requiredUuidAndTransfer⟩,
    ⟨"1.21", 767, .requiredUuidAndTransfer⟩,
    ⟨"1.21.1", 767, .requiredUuidAndTransfer⟩,
    ⟨"1.21.2", 768, .requiredUuidAndTransfer⟩,
    ⟨"1.21.3", 768, .requiredUuidAndTransfer⟩,
    ⟨"1.21.4", 769, .requiredUuidAndTransfer⟩,
    ⟨"1.21.5", 770, .requiredUuidAndTransfer⟩,
    ⟨"1.21.6", 771, .requiredUuidAndTransfer⟩,
    ⟨"1.21.7", 772, .requiredUuidAndTransfer⟩,
    ⟨"1.21.8", 772, .requiredUuidAndTransfer⟩,
    ⟨"1.21.9", 773, .requiredUuidAndTransfer⟩,
    ⟨"1.21.10", 773, .requiredUuidAndTransfer⟩,
    ⟨"1.21.11", 774, .requiredUuidAndTransfer⟩,
    ⟨"26.1", 775, .requiredUuidAndTransfer⟩,
    ⟨"26.1.1", 775, .requiredUuidAndTransfer⟩,
    ⟨"26.1.2", 775, .requiredUuidAndTransfer⟩,
    ⟨"26.2", 776, .requiredUuidAndTransfer⟩
  ]

/-- A release of the table; there is no other way to get one. -/
structure MinecraftVersion where
  profile : VersionProfile
  supported : profile ∈ supportedVersions

namespace MinecraftVersion

/-- `MinecraftVersion::name`. -/
def name (version : MinecraftVersion) : String := version.profile.name

/-- `MinecraftVersion::protocol`. -/
def protocol (version : MinecraftVersion) : Int32 := version.profile.protocol

/-- `MinecraftVersion::initial_protocol`. -/
def initialProtocol (version : MinecraftVersion) : InitialProtocol :=
  version.profile.initialProtocol

end MinecraftVersion

end McServerNap
