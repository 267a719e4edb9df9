import GuestConfig.Agent
import GuestConfig.Checked
import GuestConfig.CloudInit.Addressing
import GuestConfig.CloudInit.Basic
import GuestConfig.CloudInit.Keys
import GuestConfig.CloudInit.Snippet
import GuestConfig.Configuration
import GuestConfig.Cpu.Affinity
import GuestConfig.Cpu.Basic
import GuestConfig.Cpu.Flag
import GuestConfig.Cpu.Model
import GuestConfig.Description.Basic
import GuestConfig.Description.Device
import GuestConfig.Description.Drive
import GuestConfig.Description.Error
import GuestConfig.Description.Resources
import GuestConfig.Disk.Basic
import GuestConfig.Disk.Drive
import GuestConfig.Disk.Image
import GuestConfig.Disk.Kind
import GuestConfig.Disk.Media
import GuestConfig.Disk.Options
import GuestConfig.Disk.Throughput
import GuestConfig.Disk.Volume
import GuestConfig.Error.Rule
import GuestConfig.Error.Wire
import GuestConfig.GuestId
import GuestConfig.Memory
import GuestConfig.Names
import GuestConfig.Network.Address
import GuestConfig.Network.Card
import GuestConfig.Network.Interface
import GuestConfig.Number.Floating
import GuestConfig.Number.Shortest
import GuestConfig.OptionList
import GuestConfig.Pci
import GuestConfig.Plan.Change
import GuestConfig.Plan.Placement
import GuestConfig.Plan.Step
import GuestConfig.Planner
import GuestConfig.Proofs.Assembly
import GuestConfig.Proofs.CloudInit.Addressing
import GuestConfig.Proofs.CloudInit.Keys
import GuestConfig.Proofs.CloudInit.Snippet
import GuestConfig.Proofs.CloudInit.UnchangedKeys
import GuestConfig.Proofs.Collections
import GuestConfig.Proofs.Commutation
import GuestConfig.Proofs.Convergence
import GuestConfig.Proofs.Cpu.Affinity
import GuestConfig.Proofs.Cpu.AffinityRuns
import GuestConfig.Proofs.Cpu.Flag
import GuestConfig.Proofs.Cpu.FlagList
import GuestConfig.Proofs.Cpu.Model
import GuestConfig.Proofs.Creation
import GuestConfig.Proofs.Description.Conversion
import GuestConfig.Proofs.Description.Device
import GuestConfig.Proofs.Description.Drive
import GuestConfig.Proofs.Description.Resources
import GuestConfig.Proofs.Description.Unambiguous
import GuestConfig.Proofs.Disk.Attachment
import GuestConfig.Proofs.Disk.Decode
import GuestConfig.Proofs.Disk.Drive
import GuestConfig.Proofs.Disk.Exchange
import GuestConfig.Proofs.Disk.Naming
import GuestConfig.Proofs.Disk.Options
import GuestConfig.Proofs.Disk.Plan
import GuestConfig.Proofs.Disk.Revision
import GuestConfig.Proofs.Disk.Volume
import GuestConfig.Proofs.Document.Device
import GuestConfig.Proofs.Document.Drive
import GuestConfig.Proofs.Document.Lossless
import GuestConfig.Proofs.Document.Setting
import GuestConfig.Proofs.Document.Table
import GuestConfig.Proofs.Frame
import GuestConfig.Proofs.LeftAlone
import GuestConfig.Proofs.Log
import GuestConfig.Proofs.OptionList
import GuestConfig.Proofs.Outcome
import GuestConfig.Proofs.Plan.Distinct
import GuestConfig.Proofs.Plan.Effect
import GuestConfig.Proofs.Plan.Family
import GuestConfig.Proofs.Plan.Parts
import GuestConfig.Proofs.Plan.Steps
import GuestConfig.Proofs.ReadBack.Addressing
import GuestConfig.Proofs.ReadBack.Cpu
import GuestConfig.Proofs.ReadBack.Disk
import GuestConfig.Proofs.ReadBack.Drive
import GuestConfig.Proofs.ReadBack.Network
import GuestConfig.Proofs.Readability
import GuestConfig.Proofs.Readable.CloudInit
import GuestConfig.Proofs.Readable.Drive
import GuestConfig.Proofs.Readable.Wire
import GuestConfig.Proofs.Reboot
import GuestConfig.Proofs.Refusal
import GuestConfig.Proofs.Rules.Capacity
import GuestConfig.Proofs.Rules.CloudInitDrive
import GuestConfig.Proofs.Rules.Gateway
import GuestConfig.Proofs.Rules.Interface
import GuestConfig.Proofs.Rules.Memory
import GuestConfig.Proofs.Rules.Mtu
import GuestConfig.Proofs.Rules.Topology
import GuestConfig.Proofs.Rules.Version
import GuestConfig.Proofs.Setting
import GuestConfig.Proofs.Settling.CloudInit
import GuestConfig.Proofs.Settling.Cpu
import GuestConfig.Proofs.Settling.Device
import GuestConfig.Proofs.Settling.Drive
import GuestConfig.Proofs.Settling.Guest
import GuestConfig.Proofs.Settling.Network
import GuestConfig.Proofs.SlotKey
import GuestConfig.Proofs.Sorted
import GuestConfig.Proofs.Spelling
import GuestConfig.Proofs.Text.Blank
import GuestConfig.Proofs.Text.Internet
import GuestConfig.Proofs.Text.Number
import GuestConfig.Proofs.Text.Percent
import GuestConfig.Proofs.Text.Split
import GuestConfig.Proofs.Text.Word
import GuestConfig.Proofs.Unchanged
import GuestConfig.Proofs.Unit.Decimal
import GuestConfig.Proofs.Unit.FixedPoint
import GuestConfig.Proofs.Unit.Gibibyte
import GuestConfig.Proofs.Unit.Size
import GuestConfig.Proofs.Unread.Codec
import GuestConfig.Proofs.Unread.OptionList
import GuestConfig.Proofs.Unread.Stored
import GuestConfig.Proofs.WellFormed
import GuestConfig.Proofs.Wire.Family
import GuestConfig.Proofs.Wire.Field
import GuestConfig.Proofs.Wire.Settling
import GuestConfig.Serial
import GuestConfig.Slot
import GuestConfig.Sorted.Map
import GuestConfig.Sorted.Order
import GuestConfig.Sorted.Set
import GuestConfig.Tag
import GuestConfig.Text.Blank
import GuestConfig.Text.Hex
import GuestConfig.Text.Internet
import GuestConfig.Text.Natural
import GuestConfig.Text.Percent
import GuestConfig.Text.Printable
import GuestConfig.Text.Quoted
import GuestConfig.Text.Split
import GuestConfig.Token
import GuestConfig.Toml.Document
import GuestConfig.Toml.Lexeme
import GuestConfig.Toml.Table
import GuestConfig.Tpm.Basic
import GuestConfig.Tpm.Version
import GuestConfig.Unit.Decimal
import GuestConfig.Unit.Error
import GuestConfig.Unit.FixedPoint
import GuestConfig.Unit.Size
import GuestConfig.Usb
import GuestConfig.Value.Basic
import GuestConfig.Value.Json
import GuestConfig.Value.Reader
import GuestConfig.Version
import GuestConfig.Wire
