import NesDeck.Activation
import NesDeck.AudioDevice
import NesDeck.Brightness
import NesDeck.Carousel
import NesDeck.ChiptunePlaylist
import NesDeck.ControllerGuard
import NesDeck.CrawlText
import NesDeck.Framebuffer
import NesDeck.FrontendAgreement
import NesDeck.JoypadSlots
import NesDeck.LauncherCache
import NesDeck.LibretroSave
import NesDeck.ManagedChild
import NesDeck.MenuDevices
import NesDeck.MenuGamepads
import NesDeck.MenuLaunch
import NesDeck.MenuTouch
import NesDeck.MenuUnicode
import NesDeck.PaletteAgreement
import NesDeck.PixelLine
import NesDeck.PngCover
import NesDeck.Presentation
import NesDeck.Resampler
import NesDeck.RomPaths
import NesDeck.ScanoutRotation
import NesDeck.TenSeconds
import NesDeck.TouchAgreement
import NesDeck.Uploader.BmcScene
import NesDeck.Uploader.LoginLockout
import NesDeck.Uploader.PaletteStore
import NesDeck.Uploader.Pipeline
import NesDeck.Uploader.Server
import NesDeck.Uploader.Sessions
import NesDeck.VorbisMemory
import NesDeck.WaylandScaling
import NesDeck.WifiEditing
import NesDeck.WifiFailover
import NesDeck.WifiWatch
