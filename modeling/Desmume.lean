import Desmume.Arm.DspExact
import Desmume.Backup.AddressWidth
import Desmume.Backup.GrowthCalls
import Desmume.Backup.NoGba
import Desmume.Backup.SaveState
import Desmume.Bios.BitUnPack
import Desmume.Bios.DiffFilter
import Desmume.Bios.HuffmanDecode
import Desmume.Bios.Termination
import Desmume.Card.RomReader
import Desmume.Card.SaveSession
import Desmume.Cpu.Protection
import Desmume.Cpu.UserBank
import Desmume.Dma.ControlRegister
import Desmume.Dma.GxFifo
import Desmume.Exec.Lcd
import Desmume.Exec.Ordered
import Desmume.Fifo.Display
import Desmume.Fifo.GxStatus
import Desmume.Fifo.IpcError
import Desmume.Fifo.IpcSync
import Desmume.Firmware.BootCode
import Desmume.Firmware.Current
import Desmume.Firmware.SpiFlash
import Desmume.Geometry.Clipping
import Desmume.Geometry.FogTable
import Desmume.Geometry.LastScene
import Desmume.Geometry.ListIntegrity
import Desmume.Geometry.Reset
import Desmume.Geometry.SavestateRoundTrip
import Desmume.Geometry.ScanConversion
import Desmume.Geometry.Shading
import Desmume.Geometry.StackDiscipline
import Desmume.Gpu.AffineLines
import Desmume.Gpu.History
import Desmume.Gpu.Layer3D
import Desmume.Gpu.PlainObjects
import Desmume.Math.Division
import Desmume.Math.SquareRoot
import Desmume.Mmu.RegisterRuns
import Desmume.Rtc.Resync
import Desmume.Savestate.Header
import Desmume.Savestate.PositionCache
import Desmume.Savestate.Termination
import Desmume.Slot2.Flash
import Desmume.Slot2.SaveTypeScan
import Desmume.Slot2.Selection
import Desmume.Sound.AdpcmPosition
import Desmume.Sound.CaptureFifo
import Desmume.Sound.SavestateRuns
import Desmume.Sound.Synchronizer
import Desmume.Sound.Widths
import Desmume.Texture.Bounds
import Desmume.Texture.Transparency
import Desmume.Thumb.LoadStore
import Desmume.Timer.ReadBack
import Desmume.Vram.Palettes
import Desmume.Wifi.Checksum
import Desmume.Wifi.CircularBuffer
