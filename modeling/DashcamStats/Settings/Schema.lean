import DashcamStats.Library.Binary64

namespace DashcamStats.Settings

abbrev Text := List Char

inductive Number where
  | finite (value : ℚ)
  | infinite (negative : Bool)
  | nan
  deriving DecidableEq

inductive Raw where
  | null
  | bool (value : Bool)
  | int (value : ℤ)
  | float (value : Number)
  | str (value : Text)
  | compound
  deriving DecidableEq

inductive SettingType where
  | bool
  | int
  | float
  | string
  | select
  | path
  | bytes
  deriving DecidableEq

structure SettingDef where
  key : String
  type : SettingType
  default : Raw
  minimum : Option ℚ := none
  maximum : Option ℚ := none
  choices : List Text := []
  readOnly : Bool := false

def HISTORICAL_TIMEZONE : Text := "Australia/Adelaide".toList

-- `general.timezone` has the fallback here, see `effectiveDefault`.
def SETTINGS : List SettingDef := [
  { key := "general.timezone", type := .string, default := .str HISTORICAL_TIMEZONE },
  { key := "general.footage_dir", type := .path, default := .str "/dashcam".toList },
  { key := "general.media_extensions", type := .string,
    default := .str ".ts,.mp4,.mov,.avi,.mkv".toList },
  { key := "general.thumbnail_width", type := .int, default := .int 480, minimum := some 160,
    maximum := some 1920 },
  { key := "general.thumbnail_quality", type := .int, default := .int 80, minimum := some 40,
    maximum := some 100 },
  { key := "general.stream_cache_gb", type := .float, default := .float (.finite 5),
    minimum := some (1 / 2), maximum := some 500 },
  { key := "scanner.enabled", type := .bool, default := .bool true },
  { key := "scanner.interval_minutes", type := .int, default := .int 60, minimum := some 1,
    maximum := some 10080 },
  { key := "scanner.auto_process", type := .bool, default := .bool true },
  { key := "scanner.damaged_footage_action", type := .select, default := .str "hide".toList,
    choices := ["keep".toList, "hide".toList, "delete".toList] },
  { key := "scanner.settle_seconds", type := .int, default := .int 90, minimum := some 0,
    maximum := some 3600 },
  { key := "scanner.follow_symlinks", type := .bool, default := .bool false },
  { key := "scanner.fingerprint_bytes", type := .int, default := .int 1048576,
    minimum := some 65536, maximum := some 16777216 },
  { key := "processing.max_workers", type := .int, default := .int 2, minimum := some 1,
    maximum := some 16 },
  { key := "processing.hardware_acceleration", type := .bool, default := .bool true },
  { key := "processing.decoder_preference", type := .select, default := .str "auto".toList,
    choices := ["auto".toList, "vaapi".toList, "qsv".toList, "cpu".toList] },
  { key := "processing.inference_device", type := .select, default := .str "auto".toList,
    choices := ["auto".toList, "GPU".toList, "CPU".toList, "NPU".toList] },
  { key := "processing.detection_enabled", type := .bool, default := .bool true },
  { key := "processing.detection_model", type := .select, default := .str "rfdetr-nano".toList,
    choices := ["rfdetr-nano".toList, "rfdetr-small".toList, "rfdetr-medium".toList] },
  { key := "processing.detection_confidence", type := .float,
    default := .float (.finite (Binary64.round (7 / 20))),
    minimum := some (Binary64.round (1 / 20)), maximum := some (Binary64.round (19 / 20)) },
  { key := "processing.frame_sample_fps", type := .float, default := .float (.finite 4),
    minimum := some (1 / 2), maximum := some 30 },
  { key := "processing.motion_gating", type := .bool, default := .bool true },
  { key := "processing.detection_classes", type := .string,
    default := .str "car,truck,bus,motorcycle,bicycle,person".toList },
  { key := "processing.track_min_frames", type := .int, default := .int 2, minimum := some 1,
    maximum := some 30 },
  { key := "processing.process_rear_camera", type := .bool, default := .bool true },
  { key := "processing.retry_max_attempts", type := .int, default := .int 3, minimum := some 0,
    maximum := some 10 },
  { key := "events.detect_harsh_braking", type := .bool, default := .bool false },
  { key := "events.harsh_braking_kmh_s", type := .float, default := .float (.finite 10),
    minimum := some 3, maximum := some 30 },
  { key := "telemetry.enabled", type := .bool, default := .bool true },
  { key := "telemetry.sample_fps", type := .float, default := .float (.finite 1),
    minimum := some (Binary64.round (1 / 10)), maximum := some 5 },
  { key := "telemetry.min_confidence", type := .float,
    default := .float (.finite (Binary64.round (3 / 5))), minimum := some 0,
    maximum := some 1 },
  { key := "telemetry.max_speed_kmh", type := .float, default := .float (.finite 300),
    minimum := some 50, maximum := some 999 },
  { key := "telemetry.min_move_metres", type := .float, default := .float (.finite 12),
    minimum := some 0, maximum := some 100 },
  { key := "telemetry.max_fix_age_s", type := .float, default := .float (.finite 3),
    minimum := some (1 / 2), maximum := some 120 },
  { key := "telemetry.max_interpolation_gap_s", type := .float, default := .float (.finite 15),
    minimum := some 0, maximum := some 300 },
  { key := "plates.enabled", type := .bool, default := .bool true },
  { key := "plates.auto_revalidate", type := .bool, default := .bool true },
  { key := "plates.detection_confidence", type := .float,
    default := .float (.finite (Binary64.round (2 / 5))),
    minimum := some (Binary64.round (1 / 20)), maximum := some (Binary64.round (19 / 20)) },
  { key := "plates.min_store_confidence", type := .float,
    default := .float (.finite (Binary64.round (3 / 10))), minimum := some 0,
    maximum := some 1 },
  { key := "plates.store_unmatched", type := .bool, default := .bool false },
  { key := "plates.region", type := .select, default := .str "AU".toList,
    choices := ["AU".toList, "AU-SA".toList, "none".toList] },
  { key := "plates.max_ocr_per_track", type := .int, default := .int 5, minimum := some 1,
    maximum := some 30 },
  { key := "plates.save_crops", type := .bool, default := .bool true },
  { key := "plates.min_plate_width", type := .int, default := .int 48, minimum := some 16,
    maximum := some 400 },
  { key := "journeys.enabled", type := .bool, default := .bool true },
  { key := "journeys.gap_minutes", type := .float, default := .float (.finite 1),
    minimum := some (1 / 2), maximum := some 180 },
  { key := "journeys.min_recordings", type := .int, default := .int 1, minimum := some 1,
    maximum := some 50 },
  { key := "journeys.use_gps_continuity", type := .bool, default := .bool true },
  { key := "journeys.max_jump_km", type := .float, default := .float (.finite 5),
    minimum := some (Binary64.round (1 / 10)), maximum := some 500 },
  { key := "journeys.min_avg_speed_kmh", type := .float, default := .float (.finite 5),
    minimum := some 0, maximum := some 100 },
  { key := "journeys.min_top_speed_kmh", type := .float, default := .float (.finite 10),
    minimum := some 0, maximum := some 200 },
  { key := "storage.max_footage_gb", type := .int, default := .int 150, minimum := some 1,
    maximum := some 1048576 },
  { key := "storage.delete_oldest", type := .bool, default := .bool true },
  { key := "storage.enable_deletion", type := .bool, default := .bool false },
  { key := "storage.min_age_days", type := .int, default := .int 0, minimum := some 0,
    maximum := some 3650 },
  { key := "storage.keep_with_detections", type := .bool, default := .bool false },
  { key := "storage.keep_events", type := .bool, default := .bool true },
  { key := "storage.delete_idle", type := .bool, default := .bool true },
  { key := "storage.idle_speed_kmh", type := .float, default := .float (.finite 3),
    minimum := some 0, maximum := some 30 },
  { key := "storage.delete_parked_journeys", type := .bool, default := .bool true },
  { key := "storage.cleanup_enabled", type := .bool, default := .bool true },
  { key := "storage.cleanup_interval_minutes", type := .int, default := .int 360,
    minimum := some 5, maximum := some 10080 },
  { key := "storage.min_expected_files", type := .int, default := .int 5, minimum := some 1,
    maximum := some 100000 },
  { key := "storage.require_mountpoint", type := .bool, default := .bool true },
  { key := "storage.max_delete_fraction", type := .float, default := .float (.finite (1 / 4)),
    minimum := some (Binary64.round (1 / 100)), maximum := some 1 },
  { key := "maps.tile_url", type := .string,
    default := .str
      "https://\x7bs\x7d.tile.openstreetmap.org/\x7bz\x7d/\x7bx\x7d/\x7by\x7d.png".toList },
  { key := "maps.attribution", type := .string,
    default := .str "&copy; OpenStreetMap contributors".toList },
  { key := "maps.max_zoom", type := .int, default := .int 19, minimum := some 1,
    maximum := some 22 },
  { key := "maps.route_simplify_m", type := .float, default := .float (.finite 5),
    minimum := some 0, maximum := some 100 },
  { key := "security.require_login", type := .bool, default := .bool false },
  { key := "security.remember_days", type := .int, default := .int 30, minimum := some 1,
    maximum := some 365 },
  { key := "security.api_key", type := .string, default := .str "".toList },
  { key := "advanced.log_level", type := .select, default := .str "INFO".toList,
    choices := ["DEBUG".toList, "INFO".toList, "WARNING".toList, "ERROR".toList] },
  { key := "advanced.log_retention_days", type := .int, default := .int 30, minimum := some 1,
    maximum := some 365 },
  { key := "advanced.job_history_days", type := .int, default := .int 90, minimum := some 7,
    maximum := some 3650 },
  { key := "advanced.keep_sparse_detections", type := .bool, default := .bool true },
  { key := "advanced.detection_store_stride", type := .int, default := .int 4,
    minimum := some 1, maximum := some 100 },
  { key := "advanced.motion_gate_min_change", type := .float,
    default := .float (.finite (Binary64.round (1 / 50))), minimum := some 0,
    maximum := some (1 / 2) },
  { key := "advanced.ffmpeg_threads", type := .int, default := .int 0, minimum := some 0,
    maximum := some 64 },
  { key := "advanced.job_heartbeat_timeout_s", type := .int, default := .int 300,
    minimum := some 30, maximum := some 7200 },
  { key := "ingest.enabled", type := .bool, default := .bool false },
  { key := "ingest.unit_adb_address", type := .string,
    default := .str "192.168.1.122:5555".toList },
  { key := "ingest.data_port", type := .int, default := .int 9000, minimum := some 1024,
    maximum := some 65535 },
  { key := "ingest.source_path_override", type := .string, default := .str "".toList },
  { key := "ingest.poll_interval_s", type := .int, default := .int 2, minimum := some 1,
    maximum := some 300 },
  { key := "ingest.listen_timeout_s", type := .int, default := .int 180, minimum := some 30,
    maximum := some 3600 },
  { key := "ingest.skip_active_seconds", type := .int, default := .int 15, minimum := some 5,
    maximum := some 600 },
  { key := "ingest.camera_filter", type := .select, default := .str "both".toList,
    choices := ["both".toList, "camera_0".toList, "camera_1".toList] },
  { key := "ingest.transfer_order", type := .select, default := .str "oldest_first".toList,
    choices := ["oldest_first".toList, "newest_first".toList] },
  { key := "ingest.show_on_unit", type := .bool, default := .bool false },
  { key := "ingest.hold_page_foreground", type := .bool, default := .bool true },
  { key := "ingest.carplay_timing", type := .bool, default := .bool true },
  { key := "ingest.carplay_timing_interval_s", type := .int, default := .int 15,
    minimum := some 5, maximum := some 120 },
  { key := "ingest.carplay_codec_trace_until_unix_s", type := .int, default := .int 0,
    minimum := some 0, maximum := some 253402300799, readOnly := true },
  { key := "ingest.unit_display_url", type := .string, default := .str "".toList },
  { key := "ingest.learned_origin", type := .string, default := .str "".toList,
    readOnly := true },
  { key := "ingest.include_locked", type := .bool, default := .bool true },
  { key := "ingest.skip_parked_footage", type := .bool, default := .bool false },
  { key := "ingest.sweep_passes", type := .int, default := .int 2, minimum := some 0,
    maximum := some 10 },
  { key := "ingest.rescue_partials", type := .bool, default := .bool true },
  { key := "ingest.redrain_cooldown_s", type := .int, default := .int 60, minimum := some 0,
    maximum := some 600 },
  { key := "ingest.max_backups_per_visit", type := .int, default := .int 2, minimum := some 0,
    maximum := some 50 },
  { key := "ingest.min_uptime_s", type := .int, default := .int 120, minimum := some 0,
    maximum := some 3600 },
  { key := "ingest.only_when_parked", type := .bool, default := .bool true },
  { key := "ingest.quiet_radios", type := .bool, default := .bool false },
  { key := "ingest.zlink_hotspot_rearm", type := .bool, default := .bool false },
  { key := "ingest.unit_health_watch", type := .bool, default := .bool true },
  { key := "ingest.unit_health_fix", type := .bool, default := .bool true },
  { key := "ingest.unit_health", type := .string, default := .str "".toList, readOnly := true },
  { key := "ingest.unit_logs", type := .bool, default := .bool true },
  { key := "ingest.unit_log_silenced_tags", type := .string, default := .str "".toList },
  { key := "ingest.unit_log_allowed_tags", type := .string, default := .str "".toList },
  { key := "ingest.unit_log_windowmanager_errors", type := .bool, default := .bool false },
  { key := "ingest.unit_log_status", type := .string, default := .str "".toList,
    readOnly := true },
  { key := "ingest.radios_pending_restore", type := .string, default := .str "".toList,
    readOnly := true },
  { key := "ingest.adb_root", type := .bool, default := .bool false },
  { key := "ingest.adb_root_state", type := .string, default := .str "".toList,
    readOnly := true },
  { key := "ingest.hotspot_refusal", type := .string, default := .str "".toList,
    readOnly := true },
  { key := "ingest.wifi_band", type := .select, default := .str "any".toList,
    choices := ["any".toList, "prefer_5ghz".toList, "require_5ghz".toList] },
  { key := "ingest.unifi_enabled", type := .bool, default := .bool false },
  { key := "ingest.unifi_url", type := .string, default := .str "".toList },
  { key := "ingest.unifi_site", type := .string, default := .str "default".toList },
  { key := "ingest.unifi_verify_tls", type := .bool, default := .bool false },
  { key := "ingest.wifi_selection_nudge", type := .bool, default := .bool true },
  { key := "ingest.manage_sleep_window", type := .bool, default := .bool true, readOnly := true },
  { key := "ingest.sleep_window_s", type := .int, default := .int 1200, minimum := some 1200,
    maximum := some 1200, readOnly := true },
  { key := "ingest.sleep_window_idle_s", type := .int, default := .int 300,
    minimum := some 300, maximum := some 300, readOnly := true },
  { key := "ingest.delete_after_verify", type := .bool, default := .bool false },
  { key := "ingest.min_free_gb", type := .float, default := .float (.finite 5),
    minimum := some 0, maximum := some 2000 },
  { key := "ingest.chunk_size", type := .int, default := .int 5, minimum := some 1,
    maximum := some 50 },
  { key := "ingest.commit_queue_depth", type := .int, default := .int 2, minimum := some 1,
    maximum := some 10 },
  { key := "ingest.hand_screen_back", type := .bool, default := .bool true },
  { key := "ingest.webhook_url", type := .string, default := .str "".toList },
  { key := "ingest.mqtt_enabled", type := .bool, default := .bool false },
  { key := "ingest.mqtt_host", type := .string, default := .str "".toList },
  { key := "ingest.mqtt_port", type := .int, default := .int 1883, minimum := some 1,
    maximum := some 65535 },
  { key := "ingest.mqtt_user", type := .string, default := .str "".toList },
  { key := "ingest.mqtt_pass", type := .string, default := .str "".toList },
  { key := "ingest.mqtt_base_topic", type := .string, default := .str "dashcam/backup".toList } ]

def settingByKey (key : String) : Option SettingDef := SETTINGS.find? (·.key = key)

def FIXED_SETTING_VALUES (key : String) : Option Raw :=
  if key = "ingest.manage_sleep_window" then some (.bool true) else none

end DashcamStats.Settings
