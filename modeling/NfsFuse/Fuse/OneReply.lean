import NfsFuse.Fuse.ListingReplies
import NfsFuse.Fuse.Serving

/-!
# One reply to every request

The exact condition under which a handler of `hsfs_oper` calls one reply function and returns, read
off the cache before the request and the answers the request received.
-/

namespace NfsFuse

open Lib

/-- The request is answered once. -/
def OneReply (plat : Platform) (daemon : Daemon) : Request → Trace → Prop
  | .lookup parent _, trace => daemon.Caches parent → Acquired daemon trace
  | .forget ino nlookup, _ => ∃ index, daemon.findIno ino = some index ∧
      nlookup ≤ (daemon.inode index).priv ∧
      ¬ ((daemon.inode index).priv - nlookup = 0 ∧ (daemon.inode index).iCount = intMin)
  | .mkdir parent _ _, trace =>
      daemon.Caches parent ∧ Acquired daemon trace ∧ Unreferenced daemon trace
  | .rmdir parent _, _ => daemon.Caches parent
  | .symlink _ parent _, trace =>
      daemon.Caches parent → Acquired daemon trace ∧ Unreferenced daemon trace
  | .readlink ino, trace =>
      daemon.Caches ino ∧ (⟨.malloc .readlinkText, false⟩ : Event EnvAns) ∉ trace
  | .link ino newparent newname, trace =>
      (daemon.Caches newparent ∧ daemon.Caches ino) ∧ NameFits .linkName newname trace
  | .mknod parent name _ _, trace => daemon.Caches parent →
      NameFits .mknodName name trace ∧ Acquired daemon trace ∧ Unreferenced daemon trace
  | .create parent _ mode flags _ _, trace => daemon.Caches parent ∧ Acquired daemon trace ∧
      (SetattrFailed (createMode mode flags) trace ∨ Unreferenced daemon trace)
  | .read ino size _, trace => daemon.Caches ino → readFits size 0 trace = true
  | .readdir ino _ _, _ => daemon.Caches ino
  | .readdirplus ino size _, trace =>
      ∃ parent, daemon.findIno ino = some parent ∧ PlusReplied plat daemon parent size trace
  | .access ino _, _ => daemon.Caches ino
  | .setxattr ino name _, _ => daemon.Caches ino → xattrType name = none
  | _, _ => True

/-- A complete run of a handler sends exactly one reply exactly if the condition holds. -/
theorem one_reply_iff (plat : Platform) (fuel : ℕ) (daemon : Daemon) (request : Request)
    (trace : Trace) (ending : Ending Fault Daemon Unit) (hserving : Serving daemon)
    (hfuel : trace.length < fuel)
    (hpath : ((handle plat fuel request).run daemon).Path trace ending) :
    RepliedOnce daemon ending ↔ OneReply plat daemon request trace := by
  have hcoherent := hserving.coherent
  have hpos := hserving.length_pos
  cases request with
  | getattr ino =>
    exact iff_of_true ((repliesOnce_hsxFuseGetattr ino).repliedOnce hcoherent hpath) trivial
  | setattr ino attr toSet =>
    exact iff_of_true ((repliesOnce_hsxFuseSetattr ino attr toSet).repliedOnce hcoherent hpath)
      trivial
  | lookup parent name => exact hsxFuseLookup_repliedOnce_iff hcoherent hpos hpath
  | forget ino nlookup => exact hsxFuseForget_repliedOnce_iff hcoherent hpath
  | mkdir parent name mode => exact hsxFuseMkdir_repliedOnce_iff hcoherent hpos hpath
  | rmdir parent name => exact hsxFuseRmdir_repliedOnce_iff hcoherent hpath
  | unlink parent name =>
    exact iff_of_true ((repliesOnce_hsxFuseUnlink parent name).repliedOnce hcoherent hpath) trivial
  | rename parent name newparent newname flags =>
    exact iff_of_true ((repliesOnce_hsxFuseRename parent name newparent newname flags).repliedOnce
      hcoherent hpath) trivial
  | symlink link parent name => exact hsxFuseSymlink_repliedOnce_iff hcoherent hpos hpath
  | readlink ino => exact hsxFuseReadlink_repliedOnce_iff hcoherent hpath
  | link ino newparent newname => exact hsxFuseLink_repliedOnce_iff hcoherent hpath
  | mknod parent name mode rdev => exact hsxFuseMknod_repliedOnce_iff hcoherent hpos hpath
  | create parent name mode flags uid gid =>
    exact hsxFuseCreate_repliedOnce_iff hcoherent hpos hpath
  | openFile ino => exact iff_of_true (repliesOnce_hsxFuseOpen.repliedOnce hcoherent hpath) trivial
  | opendir ino =>
    exact iff_of_true ((repliesOnce_hsxFuseOpendir ino).repliedOnce hcoherent hpath) trivial
  | release ino => exact iff_of_true (repliedOnce_reply rfl hpath) trivial
  | read ino size off => exact hsxFuseRead_repliedOnce_iff hcoherent hfuel hpath
  | write ino data off directIo =>
    exact iff_of_true (hsxFuseWrite_repliedOnce hcoherent hfuel hpath) trivial
  | readdir ino size off => exact hsxFuseReaddir_repliedOnce_iff hcoherent hpath
  | readdirplus ino size off => exact hsxFuseReaddirPlus_repliedOnce_iff hcoherent hpos hpath
  | access ino mask => exact hsxFuseAccess_repliedOnce_iff hcoherent hpath
  | statfs ino =>
    obtain ⟨root, -, hroot⟩ := hserving.root_cached
    exact iff_of_true (hsxFuseStatfs_repliedOnce hcoherent hroot hpath) trivial
  | getxattr ino name size =>
    exact iff_of_true ((repliesOnce_hsxFuseGetxattr ino name size).repliedOnce hcoherent hpath)
      trivial
  | setxattr ino name value => exact hsxFuseSetxattr_repliedOnce_iff hcoherent hpath

/-- A lookup that finds a file is answered once. -/
theorem one_reply_fileFound :
    RepliedOnce (initialSession.daemon.setReplies []) (.done () foundDaemon) ∧
      OneReply linuxHost (initialSession.daemon.setReplies []) (.lookup 1 [102]) fileFound := by
  have hserving := (initialSession_run fun _ _ _ ↦ True).serving
  have honce : RepliedOnce (initialSession.daemon.setReplies []) (.done () foundDaemon) :=
    ⟨foundDaemon, rfl, rfl⟩
  obtain ⟨fuel, hpath⟩ := foundDaemon_answer
  exact ⟨honce, (one_reply_iff linuxHost 3 _ (.lookup 1 [102]) fileFound _
    ⟨hserving.coherent.setReplies [], hserving.root_cached⟩ (by decide) hpath).mp honce⟩

/-- `mkdir` in a directory that is not cached returns without a reply. -/
theorem mkdir_without_reply : Serving mountedCache ∧
    ((handle linuxHost 1 (.mkdir 5 [100] 0o755)).run mountedCache).Path [] (.done () mountedCache) ∧
    ¬ RepliedOnce mountedCache (.done () mountedCache) := by
  have hserving := mounted_mountedCache.serving
  have hmissing : mountedCache.findIno 5 = none := rfl
  have hpath : ((handle linuxHost 1 (.mkdir 5 [100] 0o755)).run mountedCache).Path []
      (.done () mountedCache) := by
    rw [handle, hsxFuseMkdir, hserving.coherent.ilookup_bind, hmissing]
    exact ⟨rfl, rfl⟩
  exact ⟨hserving, hpath, not_repliedOnce_pure _ _ _ ⟨rfl, rfl⟩⟩

end NfsFuse
