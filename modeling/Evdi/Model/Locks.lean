import Evdi.Foundations.Locking

/-!
# What the driver does with locks

Each function of the driver that takes a lock, or calls one that does, as its lock operations, branch by
branch and in the order of the source; a branch on data is a `choice`.  What the kernel does around the
callbacks is there as far as it holds a lock that the driver can meet.

* `LockKind`: the locks;
* `Entry`, `Entry.prog`: the entry points, and what each of them does;
* `Entry.path`: the paths of a thread, on one device or, for the platform driver, on many.
-/

namespace Evdi

open Locking

/-- The locks: those of the driver, and those of the kernel that it calls or is called under.

`modeset` stands for `mode_config.mutex` and the locks of a commit, `reservation` for `dmabuf->resv`.
`adapter`, `vtChain`, `debugfs` and `work` are held by those who are in the adapter's transfer function,
in a notifier of the chain, in a file's operation or in the delayed work; the functions that wait for
them to be over take them. -/
inductive LockKind
  | context
  | modeset
  | adapter
  | painter
  | vtChain
  | debugfs
  | work
  | cursor
  | reservation
  | pages
  | event
  | table
  deriving DecidableEq

/-- A lock of a kind: of which device, object or file. -/
structure Lock where
  kind : LockKind
  id : ℕ
  deriving DecidableEq

namespace Locks

open LockProg

/-- Take a lock, and give it back. -/
def passing (k : LockKind) : LockProg LockKind := locked k .skip

/-! ### GEM objects -/

/-- `evdi_gem_object_handle_lookup`, `drm_gem_object_lookup`, `drm_gem_handle_create`. -/
def gemObjectHandleLookup : LockProg LockKind := passing .table
def drmGemObjectLookup : LockProg LockKind := passing .table
def drmGemHandleCreate : LockProg LockKind := passing .table

/-- `evdi_pin_pages`, `evdi_unpin_pages`. -/
def pinPages : LockProg LockKind := passing .pages
def unpinPages : LockProg LockKind := passing .pages

/-- `evdi_dma_buf_vmap_unlocked`, with `dma_buf_vmap_xe_gem_unlocked`. -/
def dmaBufVmapUnlocked : LockProg LockKind := maybe (passing .reservation) ++ maybe (passing .reservation)

/-- `evdi_dma_buf_vunmap_unlocked`, with `dma_buf_vunmap_xe_gem_unlocked`. -/
def dmaBufVunmapUnlocked : LockProg LockKind := passing .reservation

/-- `evdi_gem_vmap`. -/
def gemVmap : LockProg LockKind := .choice dmaBufVmapUnlocked pinPages

/-- `evdi_gem_vunmap`. -/
def gemVunmap : LockProg LockKind := .choice dmaBufVunmapUnlocked unpinPages

/-- `evdi_gem_free_object`, with `drm_prime_gem_destroy`. -/
def gemFreeObject : LockProg LockKind := maybe gemVunmap ++ maybe (passing .reservation)

/-- `drm_gem_object_put`. -/
def drmGemObjectPut : LockProg LockKind := maybe gemFreeObject

/-- `evdi_dumb_create`, with `evdi_gem_create`. -/
def dumbCreate : LockProg LockKind := maybe (drmGemHandleCreate ++ maybe drmGemObjectPut)

/-- `evdi_gem_mmap`. -/
def gemMmap : LockProg LockKind := drmGemObjectLookup ++ maybe (pinPages ++ drmGemObjectPut)

/-- `evdi_prime_pin` and `evdi_prime_unpin`, which the exporter calls under the reservation. -/
def primePin : LockProg LockKind := locked .reservation pinPages
def primeUnpin : LockProg LockKind := locked .reservation unpinPages

/-! ### Framebuffers -/

/-- `drm_framebuffer_put`, with `evdi_user_framebuffer_destroy`. -/
def drmFramebufferPut : LockProg LockKind := maybe drmGemObjectPut

/-- `evdi_fb_user_fb_create`. -/
def fbUserFbCreate : LockProg LockKind := maybe (drmGemObjectLookup ++ maybe drmGemObjectPut)

/-! ### The cursor -/

/-- `evdi_cursor_set_gem`. -/
def cursorSetGem : LockProg LockKind := maybe drmGemObjectPut

/-- `evdi_cursor_enable`. -/
def cursorEnable : LockProg LockKind := locked .cursor (maybe cursorSetGem)

/-- `evdi_cursor_set`. -/
def cursorSet : LockProg LockKind := locked .cursor (maybe gemVmap ++ cursorSetGem)

/-- `evdi_cursor_move`. -/
def cursorMove : LockProg LockKind := passing .cursor

/-- `evdi_cursor_free`. -/
def cursorFree : LockProg LockKind := maybe cursorSetGem

/-- `copy_cursor_pixels`. -/
def copyCursorPixels : LockProg LockKind := passing .cursor

/-! ### Events -/

/-- `drm_event_cancel_free`. -/
def drmEventCancelFree : LockProg LockKind := passing .event

/-- `evdi_painter_add_event_to_pending_list`. -/
def painterAddEventToPendingList : LockProg LockKind := passing .event

/-- `evdi_painter_flush_pending_events`. -/
def painterFlushPendingEvents : LockProg LockKind := passing .event

/-- `evdi_painter_send_event`. -/
def painterSendEvent : LockProg LockKind :=
  maybe (.choice drmEventCancelFree (painterAddEventToPendingList ++ maybe painterFlushPendingEvents))

/-- `evdi_send_events_work`. -/
def sendEventsWork : LockProg LockKind := locked .work painterFlushPendingEvents

/-- `evdi_painter_events_cleanup`, which waits for the delayed work. -/
def painterEventsCleanup : LockProg LockKind := passing .event ++ passing .work

/-- `evdi_painter_get_gem_handle`. -/
def painterGetGemHandle : LockProg LockKind := maybe (gemObjectHandleLookup ++ maybe drmGemHandleCreate)

/-- `evdi_painter_send_cursor_set`, with `create_cursor_set_event`. -/
def painterSendCursorSet : LockProg LockKind :=
  maybe (locked .cursor painterGetGemHandle) ++ painterSendEvent

/-- `evdi_painter_send_cursor_move`, with `create_cursor_move_event`. -/
def painterSendCursorMove : LockProg LockKind := maybe (passing .cursor) ++ painterSendEvent

/-- `evdi_send_vblank`. -/
def sendVblank : LockProg LockKind := maybe (passing .event)

/-! ### The painter -/

/-- `evdi_painter_get_edid_copy`, `evdi_painter_get_num_dirts`, `evdi_painter_framebuffer_size`,
`evdi_painter_mark_dirty`. -/
def painterGetEdidCopy : LockProg LockKind := passing .painter
def painterGetNumDirts : LockProg LockKind := maybe (passing .painter)
def painterFramebufferSize : LockProg LockKind := maybe (passing .painter)
def painterMarkDirty : LockProg LockKind := maybe (passing .painter)

/-- `evdi_painter_set_vblank`. -/
def painterSetVblank : LockProg LockKind :=
  .choice (locked .painter (sendVblank ++ maybe sendVblank)) sendVblank

/-- `evdi_painter_send_update_ready_if_needed`. -/
def painterSendUpdateReadyIfNeeded : LockProg LockKind :=
  maybe (locked .painter (maybe painterSendEvent))

/-- `evdi_painter_dpms_notify`. -/
def painterDpmsNotify : LockProg LockKind := maybe painterSendEvent

/-- `evdi_painter_mode_changed_notify`. -/
def painterModeChangedNotify : LockProg LockKind :=
  maybe (.acquire .painter ++ .choice (.release .painter) (.release .painter ++ painterSendEvent))

/-- `evdi_painter_set_scanout_buffer`. -/
def painterSetScanoutBuffer : LockProg LockKind := passing .painter ++ maybe drmFramebufferPut

/-- `evdi_painter_vt_notifier_call`. -/
def painterVtNotifierCall : LockProg LockKind := locked .vtChain (maybe painterDpmsNotify)

/-- `evdi_painter_cleanup`, with `evdi_painter_unregister_from_vt`. -/
def painterCleanup : LockProg LockKind :=
  maybe (locked .painter (passing .debugfs ++ (passing .vtChain ++ (maybe drmFramebufferPut ++
    (sendVblank ++ painterEventsCleanup)))))

/-! ### Commits -/

/-- `evdi_plane_atomic_update`. -/
def planeAtomicUpdate : LockProg LockKind :=
  maybe painterDpmsNotify ++ maybe (maybe (painterSetScanoutBuffer ++ .loop painterMarkDirty) ++
    (painterGetNumDirts ++ maybe painterMarkDirty))

/-- `evdi_cursor_atomic_update`. -/
def cursorAtomicUpdate : LockProg LockKind :=
  cursorMove ++ (maybe (maybe cursorSet ++ cursorEnable) ++
    .choice (maybe (.choice painterMarkDirty painterFramebufferSize ++ painterMarkDirty))
      (maybe painterSendCursorSet ++ maybe painterSendCursorMove))

/-- `evdi_crtc_atomic_flush`. -/
def crtcAtomicFlush : LockProg LockKind :=
  maybe painterModeChangedNotify ++ (maybe painterDpmsNotify ++ (painterSetVblank ++
    painterSendUpdateReadyIfNeeded))

/-- The callbacks of a commit. -/
def commitTail : LockProg LockKind :=
  .loop (.choice planeAtomicUpdate cursorAtomicUpdate) ++ .loop crtcAtomicFlush

/-- A commit, under the locks of the DRM core or after them. -/
def commit : LockProg LockKind := .choice (locked .modeset commitTail) commitTail

/-- `evdi_user_framebuffer_dirty`. -/
def userFramebufferDirty : LockProg LockKind := .loop painterMarkDirty ++ .loop (locked .modeset commitTail)

/-- `evdi_mark_full_screen_dirty`. -/
def markFullScreenDirty : LockProg LockKind :=
  painterFramebufferSize ++ (painterMarkDirty ++ painterSendUpdateReadyIfNeeded)

/-- `evdi_crtc_cursor_set`. -/
def crtcCursorSet : LockProg LockKind :=
  locked .modeset (maybe drmGemObjectLookup ++ (cursorSet ++ (drmGemObjectPut ++
    .choice painterSendCursorSet markFullScreenDirty)))

/-- `evdi_crtc_cursor_move`. -/
def crtcCursorMove : LockProg LockKind :=
  locked .modeset (cursorMove ++ .choice painterSendCursorMove markFullScreenDirty)

/-- A probe of the connector, with `evdi_detect` and `evdi_get_modes`. -/
def probe : LockProg LockKind := locked .modeset (.loop painterGetEdidCopy)

/-- `drm_helper_hpd_irq_event`, and what the clients of the DRM device do then. -/
def drmHelperHpdIrqEvent : LockProg LockKind := probe ++ maybe (probe ++ maybe commit)

/-! ### Clients -/

/-- `evdi_painter_connect`. -/
def painterConnect : LockProg LockKind := maybe (passing .painter ++ drmHelperHpdIrqEvent)

/-- `evdi_remove_i2c_adapter`, which waits until the adapter is not in use. -/
def removeI2cAdapter : LockProg LockKind := maybe (passing .adapter)

/-- `evdi_painter_disconnect`. -/
def painterDisconnect : LockProg LockKind :=
  .acquire .painter ++ .choice (.release .painter)
    (maybe drmFramebufferPut ++ (painterEventsCleanup ++ (sendVblank ++ (cursorEnable ++
      (removeI2cAdapter ++ (.release .painter ++ drmHelperHpdIrqEvent))))))

/-- `evdi_painter_close`. -/
def painterClose : LockProg LockKind := maybe painterDisconnect

/-- `evdi_painter_connect_ioctl`. -/
def painterConnectIoctl : LockProg LockKind := maybe (.choice painterConnect painterDisconnect)

/-- `evdi_painter_grabpix_ioctl`. -/
def painterGrabpixIoctl : LockProg LockKind :=
  maybe (.acquire .painter ++ .choice (.release .painter)
    (.release .painter ++ (maybe gemVmap ++ (maybe copyCursorPixels ++
      (sendVblank ++ drmFramebufferPut)))))

/-- `evdi_painter_request_update_ioctl`, `evdi_painter_ddcci_response_ioctl`. -/
def painterRequestUpdateIoctl : LockProg LockKind := maybe (passing .painter)
def painterDdcciResponseIoctl : LockProg LockKind := passing .painter

/-- `evdi_painter_debugfs_measure_copy_fb`. -/
def painterDebugfsMeasureCopyFb : LockProg LockKind :=
  locked .debugfs (maybe (gemVmap ++ (maybe gemVunmap ++ drmFramebufferPut)))

/-! ### DDC/CI -/

/-- `evdi_painter_ddcci_data`. -/
def painterDdcciData : LockProg LockKind := painterSendEvent ++ maybe (passing .painter)

/-- `evdi_painter_i2c_data_notify`. -/
def painterI2cDataNotify : LockProg LockKind := maybe painterDdcciData

/-- `dli2c_access_master`: the i2c core lets one transfer through at a time. -/
def i2cAccessMaster : LockProg LockKind := locked .adapter (.loop painterI2cDataNotify)

/-! ### Devices -/

/-- `evdi_drm_device_release_cb`. -/
def drmDeviceReleaseCb : LockProg LockKind := cursorFree ++ painterCleanup

/-- `evdi_fbdev_cleanup`. -/
def fbdevCleanup : LockProg LockKind := maybe drmGemObjectPut

/-- `evdifb_create`. -/
def evdifbCreate : LockProg LockKind := maybe (gemVmap ++ maybe drmGemObjectPut)

/-- `evdi_fbdev_init`, with the first configuration of the console. -/
def fbdevInit : LockProg LockKind := maybe (probe ++ maybe (evdifbCreate ++ maybe commit))

/-- `evdi_drm_device_init`. -/
def drmDeviceInit : LockProg LockKind :=
  maybe (passing .vtChain) ++ (fbdevInit ++ (maybe drmDeviceReleaseCb ++
    (maybe fbdevCleanup ++ maybe cursorFree)))

/-- `evdi_drm_device_create`. -/
def drmDeviceCreate : LockProg LockKind := maybe (drmDeviceInit ++ maybe drmDeviceReleaseCb)

/-- `evdi_drm_device_remove`, with `evdi_drm_device_deinit`. -/
def drmDeviceRemove : LockProg LockKind :=
  fbdevCleanup ++ (locked .modeset commitTail ++ maybe drmDeviceReleaseCb)

/-- The release of a file: `evdi_driver_postclose`, its handles and framebuffers, and perhaps the last
reference to its device. -/
def driverPostclose : LockProg LockKind :=
  painterClose ++ (.loop drmGemObjectPut ++ (.loop drmFramebufferPut ++ maybe drmDeviceReleaseCb))

/-- `evdi_platform_dev_create`, with `evdi_platform_device_probe`. -/
def platformDevCreate : LockProg LockKind := maybe drmDeviceCreate

/-- `evdi_platform_dev_destroy`, with `evdi_platform_device_remove`. -/
def platformDevDestroy : LockProg LockKind := maybe drmDeviceRemove

/-- `evdi_platform_device_add`. -/
def platformDeviceAdd : LockProg LockKind := locked .context (maybe platformDevCreate)

/-- `evdi_platform_device_count`. -/
def platformDeviceCount : LockProg LockKind := passing .context

/-- `evdi_platform_add_devices`. -/
def platformAddDevices : LockProg LockKind := platformDeviceCount ++ .loop platformDeviceAdd

/-- `evdi_platform_remove_all_devices`. -/
def platformRemoveAllDevices : LockProg LockKind := locked .context (.loop platformDevDestroy)

/-- `evdi_platform_drv_usb`. -/
def platformDrvUsb : LockProg LockKind := .loop (maybe (platformDevDestroy ++ passing .context))

end Locks

/-! ### Entry points -/

/-- Where threads enter the driver. -/
inductive Entry
  | commit
  | userFramebufferDirty
  | crtcCursorSet
  | crtcCursorMove
  | probe
  | sendEventsWork
  | vtNotifierCall
  | connectIoctl
  | requestUpdateIoctl
  | grabpixIoctl
  | ddcciResponseIoctl
  | postclose
  | dumbCreate
  | gemMmap
  | primePin
  | primeUnpin
  | gemObjectPut
  | fbUserFbCreate
  | framebufferPut
  | debugfsMeasureCopyFb
  | i2cTransfer
  | platformDeviceAdd
  | platformDeviceCount
  | platformAddDevices
  | platformRemoveAllDevices
  | platformDrvUsb
  deriving DecidableEq

/-- What an entry point does. -/
def Entry.prog : Entry → LockProg LockKind
  | .commit => Locks.commit
  | .userFramebufferDirty => Locks.userFramebufferDirty
  | .crtcCursorSet => Locks.crtcCursorSet
  | .crtcCursorMove => Locks.crtcCursorMove
  | .probe => Locks.probe
  | .sendEventsWork => Locks.sendEventsWork
  | .vtNotifierCall => Locks.painterVtNotifierCall
  | .connectIoctl => Locks.painterConnectIoctl
  | .requestUpdateIoctl => Locks.painterRequestUpdateIoctl
  | .grabpixIoctl => Locks.painterGrabpixIoctl
  | .ddcciResponseIoctl => Locks.painterDdcciResponseIoctl
  | .postclose => Locks.driverPostclose
  | .dumbCreate => Locks.dumbCreate
  | .gemMmap => Locks.gemMmap
  | .primePin => Locks.primePin
  | .primeUnpin => Locks.primeUnpin
  | .gemObjectPut => Locks.drmGemObjectPut
  | .fbUserFbCreate => Locks.fbUserFbCreate
  | .framebufferPut => Locks.drmFramebufferPut
  | .debugfsMeasureCopyFb => Locks.painterDebugfsMeasureCopyFb
  | .i2cTransfer => Locks.i2cAccessMaster
  | .platformDeviceAdd => Locks.platformDeviceAdd
  | .platformDeviceCount => Locks.platformDeviceCount
  | .platformAddDevices => Locks.platformAddDevices
  | .platformRemoveAllDevices => Locks.platformRemoveAllDevices
  | .platformDrvUsb => Locks.platformDrvUsb

/-- A thread in the driver: where it entered, and on which device. -/
structure Task where
  entry : Entry
  device : ℕ

/-- There is one lock of the kind for each device. -/
def LockKind.perDevice : LockKind → Bool
  | .modeset | .adapter | .painter | .vtChain | .debugfs | .work | .cursor | .event => true
  | .context | .reservation | .pages | .table => false

/-- The entry points of the platform driver go through many devices. -/
def Entry.platform : Entry → Bool
  | .platformDeviceAdd | .platformDeviceCount | .platformAddDevices | .platformRemoveAllDevices
  | .platformDrvUsb => true
  | _ => false

/-- The locks of a thread. -/
def Task.own (t : Task) (a : Lock) : Prop :=
  t.entry.platform = false → a.kind.perDevice = true → a.id = t.device

/-- The paths of a thread. -/
def Task.path (t : Task) (ops : List (Op LockKind Lock)) : Prop :=
  t.entry.prog.Path Lock.kind t.own ops

end Evdi
