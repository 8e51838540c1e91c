import PlatformSmbios.Driver.Basic
import PlatformSmbios.Driver.BaseLib
import PlatformSmbios.Driver.Crc32
import PlatformSmbios.Driver.HexString
import PlatformSmbios.Driver.LogSmbiosData
import PlatformSmbios.Driver.VersionScan
import PlatformSmbios.Driver.Tables
import PlatformSmbios.Driver.Builders
import PlatformSmbios.Proofs.Crc32
import PlatformSmbios.Proofs.Crc32IsoHdlc
import PlatformSmbios.Proofs.HexString
import PlatformSmbios.Proofs.LogSmbiosData
import PlatformSmbios.Proofs.VersionScan
import PlatformSmbios.Proofs.ScanReads
import PlatformSmbios.Proofs.Builders
import PlatformSmbios.Proofs.Calls
import PlatformSmbios.Proofs.Run
import PlatformSmbios.Proofs.Handles
import PlatformSmbios.Proofs.Strings
import PlatformSmbios.Proofs.Serial
import PlatformSmbios.Proofs.Memory
import PlatformSmbios.Proofs.Format
import PlatformSmbios.Proofs.Published
import PlatformSmbios.Proofs.ReadBack
import PlatformSmbios.Proofs.Isolation
