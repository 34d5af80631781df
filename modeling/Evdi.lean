import Evdi.Foundations.Transition
import Evdi.Foundations.Section
import Evdi.Foundations.Absorption
import Evdi.Foundations.Squash
import Evdi.Foundations.Words
import Evdi.Foundations.Bytes
import Evdi.Foundations.Overwrite
import Evdi.Model.Rect
import Evdi.Model.Device
import Evdi.Model.Gem
import Evdi.Model.Events
import Evdi.Model.Painter
import Evdi.Model.Connect
import Evdi.Model.Modeset
import Evdi.Model.Copy
import Evdi.Model.Framebuffer
import Evdi.Model.Grabpix
import Evdi.Model.Client
import Evdi.Model.Ioctl
import Evdi.Model.System
import Evdi.Properties.Notify
import Evdi.Properties.Vblank
import Evdi.Properties.Damage
import Evdi.Properties.Validation
import Evdi.Properties.EventQueue
import Evdi.Properties.Wakeup
import Evdi.Properties.Session
import Evdi.Properties.Compat
import Evdi.Properties.PlainCopy
import Evdi.Properties.Transfer
import Evdi.Properties.Lifecycle
import Evdi.Properties.Capacity
import Evdi.Properties.Ownership
import Evdi.Properties.Announce
import Evdi.Properties.Updates
import Evdi.Properties.Ready
import Evdi.Foundations.Retry
import Evdi.Model.Library
import Evdi.Model.ModeFilter
import Evdi.Properties.CursorDamage
import Evdi.Properties.ScanoutRefs
import Evdi.Properties.Stranded
import Evdi.Properties.Spinning
import Evdi.Model.Ddcci
import Evdi.Properties.DdcciMatch
import Evdi.Foundations.While
import Evdi.Model.Dispatch
import Evdi.Model.Wire
import Evdi.Properties.Decoding
import Evdi.Properties.Merging
import Evdi.Properties.CopyBounds
import Evdi.Properties.XeCopy
import Evdi.Model.Platform
import Evdi.Model.PlatformRun
import Evdi.Properties.DeviceTable
import Evdi.Foundations.CString
import Evdi.Model.Cards
import Evdi.Properties.AddDevices
import Evdi.Properties.Attach
import Evdi.Model.UsbPath
import Evdi.Model.UsbForest
import Evdi.Properties.CardUsage
import Evdi.Properties.ParentNames
import Evdi.Foundations.Allocation
import Evdi.Model.DrmSetup
import Evdi.Properties.DeviceSetup
import Evdi.Properties.SetupFailure
import Evdi.Properties.CursorOverlay
import Evdi.Properties.CursorReads
import Evdi.Model.GemCreate
import Evdi.Model.GemPages
import Evdi.Properties.Pinning
import Evdi.Properties.KernelMappings
import Evdi.Model.CursorState
import Evdi.Properties.DumbBuffers
import Evdi.Properties.ImportedPages
import Evdi.Properties.CursorState
import Evdi.Properties.CursorLayout
import Evdi.Properties.DdcciBytes
import Evdi.Properties.ModeFilter
import Evdi.Properties.UsbMatching
import Evdi.Properties.UsbParsing
import Evdi.Properties.EventWalk
import Evdi.Model.PyBuffer
import Evdi.Properties.BufferSize
import Evdi.Model.Card
import Evdi.Properties.CardUpdates
import Evdi.Properties.I2cTransfer
import Evdi.Foundations.Alternation
import Evdi.Model.VtSwitch
import Evdi.Properties.VtSwitch
import Evdi.Properties.ModeNotices
import Evdi.Foundations.Linked
import Evdi.Model.BufferList
import Evdi.Properties.BufferRegistry
import Evdi.Properties.Remerging
import Evdi.Properties.Clipping
import Evdi.Properties.Blending
import Evdi.Foundations.Custody
import Evdi.Model.Driver
import Evdi.Properties.EventCustody
import Evdi.Foundations.Locking
import Evdi.Model.Locks
import Evdi.Properties.Deadlock
import Evdi.Foundations.Interference
import Evdi.Model.Desktop
import Evdi.Properties.CursorMirror
import Evdi.Foundations.Refcount
import Evdi.Model.GemSpace
import Evdi.Properties.GemCustody
import Evdi.Properties.CursorHandles
import Evdi.Model.GemMapping
import Evdi.Properties.GemMapping
import Evdi.Model.Hotplug
import Evdi.Properties.Hotplug
import Evdi.Foundations.Polling
import Evdi.Model.OpenDevice
import Evdi.Properties.OpenDevice
import Evdi.Model.Modes
import Evdi.Properties.ModeMirror
import Evdi.Model.Fbdev
import Evdi.Properties.Fbdev
import Evdi.Foundations.Mirror
import Evdi.Properties.Picture
import Evdi.Properties.Screen
